import PlgBooster.Library.Precedence
import PlgBooster.Rust.Net

/-!
# The filter language of WinDivert

A filter combines tests of packet fields with `and`, which binds tighter, with `or`, and with
parentheses. Here is the part of the language that the built filters use: they put a blank
between any two words that are not parentheses.
-/

namespace PlgBooster.Client

open Rust Precedence

/-- What the tests of a filter see of a packet. -/
structure NetworkPacket where
  outbound : Bool
  dstAddr : IpAddr
  /-- The destination port of a UDP packet. -/
  udpDstPort : Option UInt16
  deriving DecidableEq, Repr

inductive Comparison where
  | equal
  | atLeast
  | atMost
  deriving DecidableEq, Repr

def Comparison.holds : Comparison → Nat → Nat → Bool
  | .equal, a, b => decide (a = b)
  | .atLeast, a, b => decide (b ≤ a)
  | .atMost, a, b => decide (a ≤ b)

inductive FilterTest where
  | outbound
  | udp
  | dstAddr (comparison : Comparison) (ip : Ipv4Addr)
  | dstPort (comparison : Comparison) (port : UInt16)
  deriving DecidableEq, Repr

/-- A test of a field that the packet does not have fails. -/
def FilterTest.holds (packet : NetworkPacket) : FilterTest → Bool
  | .outbound => packet.outbound
  | .udp => packet.udpDstPort.isSome
  | .dstAddr comparison ip =>
      match packet.dstAddr with
      | .V4 dst => comparison.holds dst.toU32.toNat ip.toU32.toNat
      | .V6 _ => false
  | .dstPort comparison port =>
      match packet.udpDstPort with
      | some dst => comparison.holds dst.toNat port.toNat
      | none => false

/-! ## Words -/

/-- The word that ends, if there is one. -/
def ended (word : List Char) : List (List Char) := if word = [] then [] else [word]

/-- Words are separated by blanks, and a parenthesis is a word of its own. -/
def wordsFrom (word : List Char) : List Char → List (List Char)
  | [] => ended word
  | c :: text =>
      if c = ' ' then ended word ++ wordsFrom [] text
      else if c = '(' ∨ c = ')' then ended word ++ [c] :: wordsFrom [] text
      else wordsFrom (word ++ [c]) text

def filterWords (text : List Char) : List (List Char) := wordsFrom [] text

/-! ## Tokens -/

/-- The words that are tokens by themselves. -/
def keyword (word : List Char) : Option (Token FilterTest) :=
  if word = "(".toList then some .opening
  else if word = ")".toList then some .closing
  else if word = "and".toList then some .and
  else if word = "or".toList then some .or
  else if word = "outbound".toList then some (.test .outbound)
  else if word = "udp".toList then some (.test .udp)
  else none

def comparison (word : List Char) : Option Comparison :=
  if word = "==".toList then some .equal
  else if word = ">=".toList then some .atLeast
  else if word = "<=".toList then some .atMost
  else none

/-- The test of a field against a value. -/
def fieldTest (field operator value : List Char) : Option FilterTest := do
  let c ← comparison operator
  if field = "ip.DstAddr".toList then (parseIpv4Addr value).map (.dstAddr c)
  else if field = "udp.DstPort".toList then (parseU16 value).toOption.map (.dstPort c)
  else none

def filterTokens : List (List Char) → Option (List (Token FilterTest))
  | [] => some []
  | word :: rest =>
      match keyword word with
      | some token => (filterTokens rest).map (token :: ·)
      | none =>
          match rest with
          | operator :: value :: rest => do
              let test ← fieldTest word operator value
              (filterTokens rest).map (.test test :: ·)
          | _ => none

/-- Whether a filter is true of a packet, where it is well formed. -/
def filterValue (filter : String) (packet : NetworkPacket) : Option Bool := do
  let tokens ← filterTokens (filterWords filter.toList)
  Precedence.value (·.holds packet) tokens

/-! ## Writing -/

/-- A word cannot be continued here. -/
def Ends (rest : List Char) : Prop := ∀ c ∈ rest.head?, c = ' ' ∨ c = ')'

/-- A text is divided into these words, whatever follows. -/
def Spells (text : List Char) (words : List (List Char)) : Prop :=
  ∀ rest, Ends rest → filterWords (text ++ rest) = words ++ filterWords rest

/-- These words are these tokens, whatever follows. -/
def Denotes (words : List (List Char)) (tokens : List (Token FilterTest)) : Prop :=
  ∀ rest, filterTokens (words ++ rest) = (filterTokens rest).map (tokens ++ ·)

/-- The text is how these tokens are written. -/
def Writes (text : List Char) (tokens : List (Token FilterTest)) : Prop :=
  ∃ words, Spells text words ∧ Denotes words tokens

/-- A character that neither ends a word nor is one. -/
def isPlain (c : Char) : Bool := c != ' ' && c != '(' && c != ')'

/-- A word that is not a parenthesis. -/
def isWord (word : List Char) : Bool := word != [] && word.all isPlain

theorem wordsFrom_append {word : List Char} (plain : word.all isPlain) (front rest : List Char) :
    wordsFrom front (word ++ rest) = wordsFrom (front ++ word) rest := by
  induction word generalizing front with
  | nil => simp
  | cons c word ih =>
      rw [List.all_cons, Bool.and_eq_true] at plain
      obtain ⟨here, later⟩ := plain
      simp only [isPlain, Bool.and_eq_true, bne_iff_ne] at here
      rw [List.cons_append, wordsFrom, if_neg here.1.1, if_neg (by simp [here.1.2, here.2]),
        ih later, List.append_assoc, List.singleton_append]

theorem wordsFrom_of_ends {rest : List Char} (ends : Ends rest) (word : List Char) :
    wordsFrom word rest = ended word ++ filterWords rest := by
  cases rest with
  | nil => simp [wordsFrom, filterWords, ended]
  | cons c rest =>
      rcases ends c rfl with rfl | rfl
      · simp [wordsFrom, filterWords, ended]
      · simp [wordsFrom, filterWords, ended]

namespace Spells

variable {text text' : List Char} {words words' : List (List Char)}

theorem word {word : List Char} (isWord : isWord word) : Spells word [word] := by
  obtain ⟨nonempty, plain⟩ := Bool.and_eq_true_iff.mp isWord
  rw [bne_iff_ne] at nonempty
  intro rest ends
  rw [filterWords, wordsFrom_append plain, List.nil_append, wordsFrom_of_ends ends, ended,
    if_neg nonempty]

theorem blank (spells : Spells text words) (spells' : Spells text' words') :
    Spells (text ++ ' ' :: text') (words ++ words') := by
  intro rest ends
  have skip : filterWords (' ' :: (text' ++ rest)) = filterWords (text' ++ rest) := by
    simp [filterWords, wordsFrom, ended]
  rw [List.append_assoc, List.cons_append, spells _ (by simp [Ends]), skip, spells' rest ends,
    List.append_assoc]

theorem parens (spells : Spells text words) :
    Spells ('(' :: text ++ [')']) (['('] :: words ++ [[')']]) := by
  intro rest _
  have front (rest : List Char) : filterWords ('(' :: rest) = ['('] :: filterWords rest := by
    simp [filterWords, wordsFrom, ended]
  have back (rest : List Char) : filterWords (')' :: rest) = [')'] :: filterWords rest := by
    simp [filterWords, wordsFrom, ended]
  rw [List.cons_append, List.cons_append, List.append_assoc, front, List.singleton_append,
    spells _ (by simp [Ends]), back, List.cons_append, List.cons_append, List.append_assoc,
    List.singleton_append]

end Spells

namespace Denotes

variable {words words' : List (List Char)} {tokens tokens' : List (Token FilterTest)}

theorem append (denotes : Denotes words tokens) (denotes' : Denotes words' tokens') :
    Denotes (words ++ words') (tokens ++ tokens') := by
  intro rest
  rw [List.append_assoc, denotes, denotes', Option.map_map]
  congr 1
  funext later
  exact (List.append_assoc _ _ _).symm

theorem keyword {word : List Char} {token : Token FilterTest}
    (known : Client.keyword word = some token) : Denotes [word] [token] := by
  intro rest
  rw [List.singleton_append]
  conv_lhs => unfold filterTokens
  rw [known]
  rfl

theorem fieldTest {field operator value : List Char} {test : FilterTest}
    (other : Client.keyword field = none)
    (known : Client.fieldTest field operator value = some test) :
    Denotes [field, operator, value] [.test test] := by
  intro rest
  rw [List.cons_append, List.cons_append, List.singleton_append, filterTokens, other]
  dsimp only
  rw [known]
  rfl

end Denotes

/-- Two operands with an operator between them. -/
theorem Writes.operator {text text' : List Char} {tokens tokens' : List (Token FilterTest)}
    (writes : Writes text tokens) (word : List Char) {token : Token FilterTest}
    (isWord : isWord word) (known : keyword word = some token) (writes' : Writes text' tokens') :
    Writes (text ++ ' ' :: (word ++ ' ' :: text')) (tokens ++ token :: tokens') := by
  obtain ⟨words, spells, denotes⟩ := writes
  obtain ⟨words', spells', denotes'⟩ := writes'
  exact ⟨words ++ ([word] ++ words'), spells.blank ((Spells.word isWord).blank spells'),
    denotes.append ((Denotes.keyword known).append denotes')⟩

/-! ## Meaning -/

/-- The text is an expression that is true of just these packets. -/
def Expresses (rank : Rank) (text : List Char) (P : NetworkPacket → Prop) : Prop :=
  ∃ phrase : Phrase FilterTest rank, Writes text phrase.tokens ∧
    ∀ packet, phrase.eval (·.holds packet) = true ↔ P packet

namespace Expresses

variable {rank : Rank} {text text' : List Char} {P Q : NetworkPacket → Prop}

theorem congr (expresses : Expresses rank text P) (same : ∀ packet, P packet ↔ Q packet) :
    Expresses rank text Q := by
  obtain ⟨phrase, writes, means⟩ := expresses
  exact ⟨phrase, writes, fun packet => (means packet).trans (same packet)⟩

theorem keyword {word : List Char} {test : FilterTest} (isWord : isWord word)
    (known : Client.keyword word = some (.test test)) :
    Expresses .primary word (test.holds · = true) :=
  ⟨.test test, ⟨[word], .word isWord, .keyword known⟩, fun _ => Iff.rfl⟩

theorem comparison {field operator value : List Char} {test : FilterTest}
    (isField : isWord field) (isOperator : isWord operator) (isValue : isWord value)
    (other : Client.keyword field = none)
    (known : fieldTest field operator value = some test) :
    Expresses .primary (field ++ ' ' :: (operator ++ ' ' :: value)) (test.holds · = true) := by
  have spells := (Spells.word isField).blank ((Spells.word isOperator).blank (.word isValue))
  exact ⟨.test test, ⟨_, spells, .fieldTest other known⟩, fun _ => Iff.rfl⟩

theorem parens (expresses : Expresses .disjunction text P) :
    Expresses .primary ('(' :: text ++ [')']) P := by
  obtain ⟨phrase, ⟨words, spells, denotes⟩, means⟩ := expresses
  have front : Denotes [['(']] [.opening] := .keyword (by decide)
  have back : Denotes [[')']] [.closing] := .keyword (by decide)
  exact ⟨.parens phrase, ⟨_, spells.parens, (front.append denotes).append back⟩, means⟩

theorem single (expresses : Expresses .primary text P) : Expresses .conjunction text P := by
  obtain ⟨phrase, writes, means⟩ := expresses
  exact ⟨.single phrase, writes, means⟩

theorem only (expresses : Expresses .conjunction text P) : Expresses .disjunction text P := by
  obtain ⟨phrase, writes, means⟩ := expresses
  exact ⟨.only phrase, writes, means⟩

theorem and (expresses : Expresses .conjunction text P) (expresses' : Expresses .primary text' Q) :
    Expresses .conjunction (text ++ " and ".toList ++ text')
      (fun packet => P packet ∧ Q packet) := by
  obtain ⟨phrase, writes, means⟩ := expresses
  obtain ⟨phrase', writes', means'⟩ := expresses'
  refine ⟨.and phrase phrase', ?_, fun packet => ?_⟩
  · rw [List.append_assoc]
    exact writes.operator "and".toList (by decide) (by decide) writes'
  · rw [Phrase.eval, Bool.and_eq_true, means, means']

theorem or (expresses : Expresses .disjunction text P)
    (expresses' : Expresses .conjunction text' Q) :
    Expresses .disjunction (text ++ " or ".toList ++ text')
      (fun packet => P packet ∨ Q packet) := by
  obtain ⟨phrase, writes, means⟩ := expresses
  obtain ⟨phrase', writes', means'⟩ := expresses'
  refine ⟨.or phrase phrase', ?_, fun packet => ?_⟩
  · rw [List.append_assoc]
    exact writes.operator "or".toList (by decide) (by decide) writes'
  · rw [Phrase.eval, Bool.or_eq_true, means, means']

/-- An expression is read as what it means. -/
theorem filterValue_eq {filter : String} (expresses : Expresses rank filter.toList P)
    (packet : NetworkPacket) :
    ∃ value, filterValue filter packet = some value ∧ (value = true ↔ P packet) := by
  obtain ⟨phrase, ⟨words, spells, denotes⟩, means⟩ := expresses
  have whole := spells [] nofun
  rw [List.append_nil] at whole
  have tokens : filterTokens (filterWords filter.toList) = some phrase.tokens := by
    rw [whole, denotes]
    simp [filterWords, wordsFrom, ended, filterTokens]
  refine ⟨phrase.eval (·.holds packet), ?_, means packet⟩
  rw [filterValue, tokens]
  exact value_tokens _ phrase

end Expresses

end PlgBooster.Client
