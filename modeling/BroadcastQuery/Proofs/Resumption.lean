import BroadcastQuery.Proofs.Moving

/-!
Reading on from where a reading has stopped. Whatever its answer, a reading takes the first of the
tokens that are left, unless that is a label never closed; so readings one behind the other soon
have one answer only.
-/
namespace BroadcastQuery

variable {limit : Nat} {token : Token} {tokens rest : List Token}

namespace Draft

end Draft

namespace DraftQuery

end DraftQuery
end BroadcastQuery
