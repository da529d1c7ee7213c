import ClaimGate.Json.Basic

/-! Texts that run over several lines of a settings document. Spaces around a line break
do not count, a single break joins two lines with a space, and of several breaks the
first is dropped; but a separator of lines or paragraphs is always kept. A text without
a break is as it is written. -/

namespace ClaimGate.Folding

def isBreak (c : Char) : Bool := c == '\x85' || c == '\u2028' || c == '\u2029'

/-- A break that only ends a line stands as a line feed; a separator stands for itself. -/
def kept (c : Char) : Char := if c = '\x85' then '\n' else c

/-- What a run of spaces and breaks stands for. -/
def ofRun (run : List Char) : List Char :=
  match (run.filter isBreak).map kept with
  | [] => run
  | ['\n'] => [' ']
  | '\n' :: more => more
  | breaks => breaks

/-- The text that follows a run of spaces and breaks, with that run. -/
def foldAfter (run : List Char) : List Char → List Char
  | [] => ofRun run
  | c :: cs =>
    if c = ' ' || isBreak c then foldAfter (run ++ [c]) cs else ofRun run ++ c :: foldAfter [] cs

def fold (s : String) : String := .ofList (foldAfter [] s.toList)

theorem ofRun_of_forall {run : List Char} (h : ∀ c ∈ run, isBreak c = false) : ofRun run = run := by
  have hf : run.filter isBreak = [] := by simp_all
  simp [ofRun, hf]

theorem foldAfter_of_forall (run : List Char) {cs : List Char} (hr : ∀ c ∈ run, isBreak c = false)
    (hc : ∀ c ∈ cs, isBreak c = false) : foldAfter run cs = run ++ cs := by
  induction cs generalizing run with
  | nil => simp [foldAfter, ofRun_of_forall hr]
  | cons c cs ih =>
    obtain ⟨hc, hcs⟩ := List.forall_mem_cons.1 hc
    by_cases h : c = ' '
    · have hr' : ∀ d ∈ run ++ [c], isBreak d = false := by
        simp only [List.mem_append, List.mem_singleton]
        rintro d (hd | rfl)
        · exact hr d hd
        · exact hc
      rw [foldAfter, if_pos (by simp [h]), ih _ hr' hcs, List.append_assoc]
      rfl
    · simp [foldAfter, h, hc, ofRun_of_forall hr, ih [] (by simp) hcs]

/-- A text without a break is as it is written. -/
theorem fold_of_forall {s : String} (h : ∀ c ∈ s.toList, isBreak c = false) : fold s = s := by
  simp [fold, foldAfter_of_forall [] (by simp) h]

end ClaimGate.Folding
