import Mathlib.Data.List.Basic

/-!
# Boolean expressions with two operators and parentheses

Tests are combined by `and`, which binds tighter, and `or`. The grammar has a rank for each
level of binding, and only parentheses lead from the loosest rank back to the tightest. The
reader goes through the tokens once, with a stack of what it has read in each open pair of
parentheses. On every phrase of the grammar it finds the value of the phrase.
-/

namespace Precedence

inductive Token (Test : Type) where
  | test (t : Test)
  | and
  | or
  | opening
  | closing
  deriving DecidableEq, Repr

/-! ## The grammar -/

inductive Rank where
  | primary
  | conjunction
  | disjunction

inductive Phrase (Test : Type) : Rank → Type where
  | test (t : Test) : Phrase Test .primary
  | parens (inner : Phrase Test .disjunction) : Phrase Test .primary
  | single (part : Phrase Test .primary) : Phrase Test .conjunction
  | and (front : Phrase Test .conjunction) (last : Phrase Test .primary) : Phrase Test .conjunction
  | only (part : Phrase Test .conjunction) : Phrase Test .disjunction
  | or (front : Phrase Test .disjunction) (last : Phrase Test .conjunction) :
      Phrase Test .disjunction

namespace Phrase

variable {Test : Type}

/-- How a phrase is written. -/
def tokens : {rank : Rank} → Phrase Test rank → List (Token Test)
  | _, .test t => [.test t]
  | _, .parens inner => .opening :: inner.tokens ++ [.closing]
  | _, .single part => part.tokens
  | _, .and front last => front.tokens ++ .and :: last.tokens
  | _, .only part => part.tokens
  | _, .or front last => front.tokens ++ .or :: last.tokens

/-- What a phrase means. -/
def eval (holds : Test → Bool) : {rank : Rank} → Phrase Test rank → Bool
  | _, .test t => holds t
  | _, .parens inner => inner.eval holds
  | _, .single part => part.eval holds
  | _, .and front last => front.eval holds && last.eval holds
  | _, .only part => part.eval holds
  | _, .or front last => front.eval holds || last.eval holds

end Phrase

/-! ## The reader -/

/-- What has been read in one pair of parentheses: whether one of the finished alternatives
holds, and whether all finished parts of the current one do. -/
structure Level where
  alternatives : Bool
  conjunction : Bool

namespace Level

def start : Level := ⟨false, true⟩

def value (level : Level) : Bool := level.alternatives || level.conjunction

/-- The next part of the current alternative. -/
def part (level : Level) (holds : Bool) : Level :=
  ⟨level.alternatives, level.conjunction && holds⟩

/-- The current alternative ends. -/
def alternative (level : Level) : Level := ⟨level.value, true⟩

theorem value_part {level : Level} (whole : level.conjunction = true) (holds : Bool) :
    (level.part holds).value = (level.alternatives || holds) := by
  rw [value, part, whole, Bool.true_and]

end Level

/-- Read tokens, `behind` an operand or in front of one. -/
def read {Test : Type} (holds : Test → Bool) :
    (behind : Bool) → Level → List Level → List (Token Test) → Option Bool
  | false, level, outer, .test t :: rest => read holds true (level.part (holds t)) outer rest
  | false, level, outer, .opening :: rest => read holds false .start (level :: outer) rest
  | true, level, outer, .and :: rest => read holds false level outer rest
  | true, level, outer, .or :: rest => read holds false level.alternative outer rest
  | true, level, up :: outer, .closing :: rest => read holds true (up.part level.value) outer rest
  | true, level, [], [] => some level.value
  | _, _, _, _ => none

/-- The value of an expression, where it is well formed. -/
def value {Test : Type} (holds : Test → Bool) (tokens : List (Token Test)) : Option Bool :=
  read holds false .start [] tokens

/-- What the reader knows behind a phrase: a part of the current alternative or, behind
alternatives, whether one of them holds. -/
theorem read_tokens {Test : Type} (holds : Test → Bool) {rank : Rank} (phrase : Phrase Test rank)
    (level : Level) (outer : List Level) (rest : List (Token Test)) :
    ∃ next : Level,
      read holds false level outer (phrase.tokens ++ rest) = read holds true next outer rest ∧
      (rank ≠ .disjunction → next = level.part (phrase.eval holds)) ∧
      (level.conjunction = true → next.value = (level.alternatives || phrase.eval holds)) := by
  induction phrase generalizing level outer rest with
  | test t => exact ⟨_, rfl, fun _ => rfl, fun whole => Level.value_part whole _⟩
  | parens inner ih =>
      obtain ⟨behind, reads, _, value⟩ := ih .start (level :: outer) (.closing :: rest)
      have inside : behind.value = inner.eval holds := value rfl
      refine ⟨level.part (inner.eval holds), ?_, fun _ => rfl,
        fun whole => Level.value_part whole _⟩
      rw [Phrase.tokens, List.cons_append, List.cons_append, List.append_assoc, read,
        List.singleton_append, reads, read, inside]
  | single part ih =>
      obtain ⟨next, reads, whole, _⟩ := ih level outer rest
      obtain rfl := whole nofun
      exact ⟨_, reads, fun _ => rfl, fun whole => Level.value_part whole _⟩
  | and front last ihFront ihLast =>
      obtain ⟨middle, readsFront, wholeFront, _⟩ :=
        ihFront level outer (.and :: (last.tokens ++ rest))
      obtain ⟨next, readsLast, wholeLast, _⟩ := ihLast middle outer rest
      obtain rfl := wholeFront nofun
      obtain rfl := wholeLast nofun
      have both : (level.part (front.eval holds)).part (last.eval holds) =
          level.part (front.eval holds && last.eval holds) := by
        rw [Level.part, Level.part, Level.part, Bool.and_assoc]
      refine ⟨_, ?_, fun _ => both, fun whole => ?_⟩
      · rw [Phrase.tokens, List.append_assoc, List.cons_append, readsFront, read, readsLast]
      · rw [both]
        exact Level.value_part whole _
  | only part ih =>
      obtain ⟨next, reads, _, value⟩ := ih level outer rest
      exact ⟨next, reads, nofun, value⟩
  | or front last ihFront ihLast =>
      obtain ⟨middle, readsFront, _, value⟩ := ihFront level outer (.or :: (last.tokens ++ rest))
      obtain ⟨next, readsLast, _, value'⟩ := ihLast middle.alternative outer rest
      refine ⟨next, ?_, nofun, fun whole => ?_⟩
      · rw [Phrase.tokens, List.append_assoc, List.cons_append, readsFront, read, readsLast]
      · rw [value' rfl, Level.alternative, value whole, Phrase.eval, Bool.or_assoc]

/-- The reader finds the value of every expression of the grammar. -/
theorem value_tokens {Test : Type} (holds : Test → Bool) {rank : Rank}
    (phrase : Phrase Test rank) : value holds phrase.tokens = some (phrase.eval holds) := by
  obtain ⟨next, reads, _, value⟩ := read_tokens holds phrase .start [] []
  have found : next.value = phrase.eval holds := value rfl
  rw [Precedence.value, ← List.append_nil phrase.tokens, reads, read, found]

end Precedence
