/-!
# Sets of tokens

Tokens have numbers, and a set of tokens is kept as the number whose bits are its members.
-/

namespace StoryCatalog.Grammar

/-- A set of tokens. -/
structure TokenSet where
  bits : Nat
deriving DecidableEq, Hashable, Repr

namespace TokenSet

/-- No token. -/
def empty : TokenSet := ⟨0⟩

/-- One token. -/
def single (token : Nat) : TokenSet := ⟨1 <<< token⟩

/-- The tokens of either set. -/
def union (a b : TokenSet) : TokenSet := ⟨a.bits ||| b.bits⟩

/-- The token is in the set. -/
def contains (set : TokenSet) (token : Nat) : Bool := set.bits.testBit token

@[simp] theorem contains_empty (token : Nat) : empty.contains token = false := by
  simp [empty, contains]

@[simp] theorem contains_single (a b : Nat) : (single a).contains b = decide (a = b) := by
  simp [single, contains, Nat.one_shiftLeft, Nat.testBit_two_pow]

@[simp] theorem contains_union (a b : TokenSet) (token : Nat) :
    (a.union b).contains token = (a.contains token || b.contains token) := by
  simp [union, contains]

end TokenSet

/-- What is known of the words of a language where a name may stand: none may stand there, the
reserved words are no names, or every word is one. -/
inductive Words where
  | none
  | reserved
  | free
deriving DecidableEq, Hashable, Repr

/-- What holds of words where either of two things may stand. -/
def Words.union : Words → Words → Words
  | .free, _ | _, .free => .free
  | .reserved, _ | _, .reserved => .reserved
  | .none, .none => .none

/-- What may follow at a place. -/
structure Follow where
  tokens : TokenSet
  words : Words
deriving DecidableEq, Hashable, Repr

/-- Nothing may follow. -/
def Follow.empty : Follow := ⟨.empty, .none⟩

/-- What may follow in either of two cases. -/
def Follow.union (a b : Follow) : Follow :=
  ⟨a.tokens.union b.tokens, a.words.union b.words⟩

end StoryCatalog.Grammar
