import ClaimGate.Json.Shape

/-! Two chains of access levels: the permission of a member on an organization, which
is stored as a bit pattern, and the role of a user on a dataset. Each is ordered as
it is declared, and its least level grants nothing. -/

namespace ClaimGate

/-! ### Permission -/

/-- What a member may do in an organization. -/
inductive Permission where
  | none | collaborate | read | write | delete | administer | owner
  deriving DecidableEq, Inhabited

namespace Permission

/-- All permissions in ascending order. -/
def all : List Permission := [none, collaborate, read, write, delete, administer, owner]

def rank : Permission → Nat
  | none => 0
  | collaborate => 1
  | read => 2
  | write => 3
  | delete => 4
  | administer => 5
  | owner => 6

instance : LE Permission := ⟨fun p q => p.rank ≤ q.rank⟩

instance : LT Permission := ⟨fun p q => p.rank < q.rank⟩

instance : DecidableLE Permission := fun p q => inferInstanceAs (Decidable (p.rank ≤ q.rank))

instance : DecidableLT Permission := fun p q => inferInstanceAs (Decidable (p.rank < q.rank))

instance : Max Permission := maxOfLe

/-- The stored form. -/
def bits : Permission → Int32
  | none => 0
  | collaborate => 1
  | read => 2
  | write => 4
  | delete => 8
  | administer => 16
  | owner => 32

/-- The greatest permission whose bits do not exceed the stored number, so that no
number grants more than it says. -/
def ofBits (n : Int32) : Permission := (all.reverse.find? (fun p => p.bits ≤ n)).getD none

def name : Permission → String
  | none => "none"
  | collaborate => "collaborate"
  | read => "read"
  | write => "write"
  | delete => "delete"
  | administer => "administer"
  | owner => "owner"

def ofName? (s : String) : Option Permission := all.find? (fun p => p.name = s)

def shape : Json.Shape Permission := .name ofName? name

/-- A permission of a stored member: a name, or bits. -/
def storedShape : Json.Shape Permission := .either "Stored" (.via .int32 ofBits bits) shape

@[simp] theorem ofBits_bits (p : Permission) : ofBits p.bits = p := by cases p <;> decide

@[simp] theorem ofName?_name (p : Permission) : ofName? p.name = some p := by cases p <;> decide

theorem bits_le_bits {p q : Permission} : p.bits ≤ q.bits ↔ p ≤ q := by
  cases p <;> cases q <;> decide

end Permission

/-! ### Role -/

/-- What a user may do with a dataset. -/
inductive Role where
  | none | guest | collaborator | editor | manager | owner
  deriving DecidableEq, Inhabited

namespace Role

/-- All roles in ascending order. -/
def all : List Role := [none, guest, collaborator, editor, manager, owner]

def rank : Role → Nat
  | none => 0
  | guest => 1
  | collaborator => 2
  | editor => 3
  | manager => 4
  | owner => 5

instance : LE Role := ⟨fun p q => p.rank ≤ q.rank⟩

instance : LT Role := ⟨fun p q => p.rank < q.rank⟩

instance : DecidableLE Role := fun p q => inferInstanceAs (Decidable (p.rank ≤ q.rank))

instance : DecidableLT Role := fun p q => inferInstanceAs (Decidable (p.rank < q.rank))

instance : Max Role := maxOfLe

/-- The greatest of the roles, and no role where there are none. -/
def highest (roles : List Role) : Role := roles.max?.getD none

def isNone (r : Role) : Bool := r = none

def name : Role → String
  | none => "none"
  | guest => "guest"
  | collaborator => "collaborator"
  | editor => "editor"
  | manager => "manager"
  | owner => "owner"

def ofName? (s : String) : Option Role := all.find? (fun r => r.name = s)

def shape : Json.Shape Role := .name ofName? name

@[simp] theorem ofName?_name (r : Role) : ofName? r.name = some r := by cases r <;> decide

end Role

end ClaimGate
