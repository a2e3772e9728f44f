/-
Which attributes mark test code. The filter looks for the word `test` in the text of a condition,
and finds it wherever it stands between two characters that are no part of words. So it finds the
flag `test`, and also the word inside of a string; only at the ends of a string do the quotes keep
it from being found.
-/

import CrateMetrics.SourceUnit
import Mathlib.Data.List.Basic

namespace CrateMetrics.Rust

/-! ### Words -/

/-- The words of a text: what stands between characters that are no part of words. -/
def wordsOf (text : List Char) : List (List Char) :=
  text.splitOnP (fun c => !isPredicateWordPart c)

def testWord : List Char :=
  ['t', 'e', 's', 't']

def HoldsTest (text : List Char) : Prop :=
  testWord ∈ wordsOf text

/-- The word `test` stands in the text between two characters that are no part of words. -/
def HoldsTestInside (text : List Char) : Prop :=
  ∃ (before after : List Char) (left right : Char),
    text = before ++ left :: (testWord ++ right :: after) ∧
      isPredicateWordPart left = false ∧ isPredicateWordPart right = false

instance (text : List Char) : Decidable (HoldsTest text) :=
  inferInstanceAs (Decidable (testWord ∈ wordsOf text))

private theorem hasTestWord_iff_mem (word text : List Char) :
    hasTestWord word text = true ↔
      testWord ∈ List.splitOnPPrepend (fun c => !isPredicateWordPart c) text word := by
  have atEnd (word : List Char) :
      (word == ['t', 's', 'e', 't']) = true ↔ testWord = word.reverse := by
    rw [beq_iff_eq, eq_comm, ← List.reverse_eq_iff]
    rfl
  induction text generalizing word with
  | nil => rw [hasTestWord, atEnd, List.splitOnPPrepend_nil, List.mem_singleton]
  | cons c rest ih =>
      rw [hasTestWord]
      cases isPart : isPredicateWordPart c with
      | true =>
          rw [if_pos rfl, List.splitOnPPrepend_cons_neg (by rw [isPart]; rfl)]
          exact ih (c :: word)
      | false =>
          rw [List.splitOnPPrepend_cons_pos (by rw [isPart]; rfl), List.mem_cons,
            if_neg Bool.false_ne_true, Bool.or_eq_true, atEnd]
          exact or_congr Iff.rfl (ih [])

theorem hasTestWord_iff (text : List Char) : hasTestWord [] text = true ↔ HoldsTest text :=
  hasTestWord_iff_mem [] text

/-- A character that is no part of words holds the words before and after it apart. -/
theorem holdsTest_append_cons {c : Char} (apart : isPredicateWordPart c = false)
    (before after : List Char) :
    HoldsTest (before ++ c :: after) ↔ HoldsTest before ∨ HoldsTest after := by
  have splits : (!isPredicateWordPart c) = true := by rw [apart]; rfl
  rw [HoldsTest, wordsOf, List.splitOnP_append_cons before after splits, List.mem_append]
  rfl

private theorem around_of_mem {separates : Char → Bool} {word text : List Char} (read : List Char)
    (found : word ∈ List.splitOnPPrepend separates text read) :
    ∃ before after : List Char, read.reverse ++ text = before ++ (word ++ after) ∧
      (before = [] ∨ ∃ front left, before = front ++ [left] ∧ separates left = true) ∧
      (after = [] ∨ ∃ right back, after = right :: back ∧ separates right = true) := by
  induction text generalizing read with
  | nil =>
      rw [List.splitOnPPrepend_nil, List.mem_singleton] at found
      exact ⟨[], [], by rw [found]; rfl, .inl rfl, .inl rfl⟩
  | cons c rest ih =>
      cases splits : separates c with
      | false =>
          rw [List.splitOnPPrepend_cons_neg splits] at found
          obtain ⟨before, after, same, around⟩ := ih _ found
          refine ⟨before, after, ?_, around⟩
          rw [← same, List.reverse_cons, List.append_assoc]
          rfl
      | true =>
          rw [List.splitOnPPrepend_cons_pos splits] at found
          rcases List.mem_cons.mp found with atStart | later
          · exact ⟨[], c :: rest, by rw [atStart]; rfl, .inl rfl, .inr ⟨c, rest, rfl, splits⟩⟩
          · obtain ⟨before, after, same, left, right⟩ := ih [] later
            refine ⟨read.reverse ++ c :: before, after, ?_, .inr ?_, right⟩
            · rw [List.append_assoc, List.cons_append, ← same]
              rfl
            · rcases left with rfl | ⟨front, left, rfl, splitsLeft⟩
              · exact ⟨read.reverse, c, rfl, splits⟩
              · exact ⟨read.reverse ++ c :: front, left, by rw [List.append_assoc]; rfl, splitsLeft⟩

/-- In a string the word is found only away from the quotes. -/
theorem holdsTest_quoted_iff (text : List Char) :
    HoldsTest ('"' :: (text ++ ['"'])) ↔ HoldsTestInside text := by
  constructor
  · intro found
    obtain ⟨before, after, same, left, right⟩ := around_of_mem [] found
    rw [List.reverse_nil, List.nil_append] at same
    rcases left with rfl | ⟨front, left, rfl, apartLeft⟩
    · cases same
    rcases right with rfl | ⟨right, back, rfl, apartRight⟩
    · have lasts : ('"' :: text ++ ['"']).getLast? = (front ++ [left] ++ testWord).getLast? := by
        rw [← List.append_nil testWord]
        exact congrArg List.getLast? same
      rw [List.getLast?_concat, List.getLast?_append] at lasts
      cases lasts
    cases front with
    | nil =>
        obtain ⟨rfl, _⟩ := List.cons.inj same
        cases apartLeft
    | cons head front =>
        obtain ⟨rfl, inside⟩ := List.cons.inj same
        obtain rfl | ⟨back, last, rfl⟩ := List.eq_nil_or_concat' back
        · have onlyQuote : text ++ ['"'] = (front ++ left :: testWord) ++ [right] := by
            rw [inside]
            simp
          obtain ⟨_, isQuote⟩ := List.append_inj' onlyQuote rfl
          obtain rfl := List.singleton_inj.mp isQuote
          cases apartRight
        · have beforeQuote : text ++ ['"'] =
              (front ++ left :: (testWord ++ right :: back)) ++ [last] := by
            rw [inside]
            simp
          obtain ⟨rfl, _⟩ := List.append_inj' beforeQuote rfl
          exact ⟨front, back, left, right, rfl, Bool.not_eq_eq_eq_not.mp apartLeft,
            Bool.not_eq_eq_eq_not.mp apartRight⟩
  · rintro ⟨before, after, left, right, rfl, apartLeft, apartRight⟩
    have split : '"' :: (before ++ left :: (testWord ++ right :: after) ++ ['"']) =
        ('"' :: before) ++ left :: (testWord ++ right :: (after ++ ['"'])) := by
      simp
    rw [split, holdsTest_append_cons apartLeft, holdsTest_append_cons apartRight]
    exact .inr (.inl (by decide))

/-! ### Tokens -/

mutual

/-- The tokens of a token, those in groups among them, without the groups themselves. -/
def Token.leaves : Token → List Token
  | .group _ content => Token.leavesOfAll content
  | .word name => [.word name]
  | .punct char joint => [.punct char joint]
  | .lifetime name => [.lifetime name]
  | .literal text => [.literal text]

def Token.leavesOfAll : List Token → List Token
  | [] => []
  | token :: rest => token.leaves ++ Token.leavesOfAll rest

end

theorem Token.leavesOfAll_append (first second : List Token) :
    Token.leavesOfAll (first ++ second) = Token.leavesOfAll first ++ Token.leavesOfAll second := by
  induction first with
  | nil => rfl
  | cons token rest ih =>
      rw [List.cons_append, Token.leavesOfAll, Token.leavesOfAll, ih, List.append_assoc]

theorem Bracket.not_wordPart (bracket : Bracket) :
    isPredicateWordPart bracket.text.1 = false ∧ isPredicateWordPart bracket.text.2 = false := by
  cases bracket with
  | _ => decide

mutual

/-- Words do not go on from one token to the next. -/
theorem Token.holdsTest_text_iff : (token : Token) →
    (HoldsTest token.text ↔ ∃ leaf ∈ token.leaves, HoldsTest leaf.text)
  | .group bracket content => by
      obtain ⟨apartOpen, apartClose⟩ := bracket.not_wordPart
      have inBrackets : Token.text (.group bracket content) =
          [] ++ bracket.text.1 :: (Token.textOfAll content ++ bracket.text.2 :: []) := rfl
      have nothing : ¬HoldsTest [] := by decide
      rw [inBrackets, holdsTest_append_cons apartOpen, holdsTest_append_cons apartClose,
        or_iff_right nothing, or_iff_left nothing]
      exact Token.holdsTest_textOfAll_iff content
  | .word _ | .punct _ _ | .lifetime _ | .literal _ => by
      rw [Token.leaves]
      simp only [List.mem_singleton, exists_eq_left]

theorem Token.holdsTest_textOfAll_iff : (tokens : List Token) →
    (HoldsTest (Token.textOfAll tokens) ↔ ∃ leaf ∈ Token.leavesOfAll tokens, HoldsTest leaf.text)
  | [] => iff_of_false (by decide) (fun ⟨_, impossible, _⟩ => nomatch impossible)
  | token :: rest => by
      have apart : isPredicateWordPart ' ' = false := by decide
      rw [Token.textOfAll, holdsTest_append_cons apart, token.holdsTest_text_iff,
        Token.holdsTest_textOfAll_iff rest, Token.leavesOfAll]
      simp only [List.mem_append, or_and_right, exists_or]

end

/-- A token that is not the identifier `test` but holds it as a word. -/
def Token.LeaksTest (token : Token) : Prop :=
  token ≠ .word "test" ∧ HoldsTest token.text

/-! ### Attributes -/

namespace Attribute

/-- `#[test]`, or a `cfg` with the identifier `test` among its tokens. -/
def FlagsTest (attr : Attribute) : Prop :=
  attr.isNamed "test" = true ∨
    attr.isNamed "cfg" = true ∧
      ∃ tokens, attr.form = .list tokens ∧ .word "test" ∈ Token.leavesOfAll tokens

/-- A `cfg` with another token that holds the word `test`. -/
def LeaksTest (attr : Attribute) : Prop :=
  attr.isNamed "cfg" = true ∧
    ∃ tokens, attr.form = .list tokens ∧ ∃ leaf ∈ Token.leavesOfAll tokens, leaf.LeaksTest

theorem marksTest_iff (attr : Attribute) :
    attr.marksTest = true ↔ attr.FlagsTest ∨ attr.LeaksTest := by
  have listed (tokens : List Token) : hasTestWord [] (Token.textOfAll tokens) = true ↔
      .word "test" ∈ Token.leavesOfAll tokens ∨
        ∃ leaf ∈ Token.leavesOfAll tokens, leaf.LeaksTest := by
    rw [hasTestWord_iff, Token.holdsTest_textOfAll_iff]
    constructor
    · rintro ⟨leaf, present, holds⟩
      by_cases isFlag : leaf = .word "test"
      · exact .inl (isFlag ▸ present)
      · exact .inr ⟨leaf, present, isFlag, holds⟩
    · rintro (present | ⟨leaf, present, _, holds⟩)
      · exact ⟨.word "test", present, by decide⟩
      · exact ⟨leaf, present, holds⟩
  rw [marksTest, FlagsTest, LeaksTest, Bool.or_eq_true, Bool.and_eq_true]
  cases form : attr.form with
  | bare => simp
  | assigned value => simp
  | list tokens =>
      simp only [listed, AttributeForm.list.injEq, exists_eq_left']
      rw [or_assoc, ← and_or_left]

end Attribute

/-! ### Conditions -/

/-- `name`, or `name = "text"` with the text as it is written. -/
structure Setting where
  name : String
  text : Option (List Char) := none

inductive Condition where
  | single (setting : Setting)
  | all (parts : List Condition)
  | any (parts : List Condition)
  | not (part : Condition)

namespace Setting

def quoted (text : List Char) : String :=
  String.ofList ('"' :: (text ++ ['"']))

def tokens (setting : Setting) : List Token :=
  match setting.text with
  | none => [.word setting.name]
  | some text => [.word setting.name, .punct '=' false, .literal (quoted text)]

/-- The word `test` is found in the setting, inside of its text or in another name. -/
def LeaksTest (setting : Setting) : Prop :=
  (setting.name ≠ "test" ∧ HoldsTest setting.name.toList) ∨
    ∃ text, setting.text = some text ∧ HoldsTestInside text

theorem leavesOfAll_tokens (setting : Setting) :
    Token.leavesOfAll setting.tokens = setting.tokens := by
  obtain ⟨name, text⟩ := setting
  cases text with
  | none => rfl
  | some text => rfl

theorem word_test_mem_tokens_iff (setting : Setting) :
    .word "test" ∈ setting.tokens ↔ setting.name = "test" := by
  obtain ⟨name, text⟩ := setting
  cases text with
  | none => simp [tokens, eq_comm]
  | some text => simp [tokens, eq_comm]

theorem exists_leaksTest_tokens_iff (setting : Setting) :
    (∃ token ∈ setting.tokens, token.LeaksTest) ↔ setting.LeaksTest := by
  obtain ⟨name, text⟩ := setting
  have named : (Token.word name).LeaksTest ↔ name ≠ "test" ∧ HoldsTest name.toList := by
    rw [Token.LeaksTest, Ne, Token.word.injEq]
    rfl
  cases text with
  | none => simp [tokens, LeaksTest, named]
  | some text =>
      have equals : ¬(Token.punct '=' false).LeaksTest :=
        fun leaks => absurd leaks.2 (by decide)
      have literal : (Token.literal (quoted text)).LeaksTest ↔ HoldsTestInside text := by
        rw [Token.LeaksTest, Token.text, quoted, String.toList_ofList, holdsTest_quoted_iff]
        exact and_iff_right (fun impossible => nomatch impossible)
      simp [tokens, LeaksTest, named, equals, literal]

end Setting

namespace Condition

mutual

def settings : Condition → List Setting
  | .single setting => [setting]
  | .all parts | .any parts => settingsOfAll parts
  | .not part => part.settings

def settingsOfAll : List Condition → List Setting
  | [] => []
  | part :: rest => part.settings ++ settingsOfAll rest

end

mutual

/-- The tokens of a condition, with commas between its parts. -/
def tokens : Condition → List Token
  | .single setting => setting.tokens
  | .all parts => [.word "all", .group .round (tokensOfAll parts)]
  | .any parts => [.word "any", .group .round (tokensOfAll parts)]
  | .not part => [.word "not", .group .round part.tokens]

def tokensOfAll : List Condition → List Token
  | [] => []
  | part :: rest =>
      part.tokens ++ ((if rest.isEmpty then [] else [.punct ',' false]) ++ tokensOfAll rest)

end

/-- The tokens that hold the settings of a condition together. -/
def joints : List Token :=
  [.word "all", .word "any", .word "not", .punct ',' false]

private theorem exists_leaf_operator {found : Token → Prop} {operator : String}
    (notFound : ¬found (.word operator)) (content : List Token) :
    (∃ leaf ∈ Token.leavesOfAll [.word operator, .group .round content], found leaf) ↔
      ∃ leaf ∈ Token.leavesOfAll content, found leaf := by
  simp [Token.leavesOfAll, Token.leaves, notFound]

mutual

/-- A condition consists of its settings and what holds them together. -/
theorem exists_leaf_iff {found : Token → Prop} (notJoint : ∀ token ∈ joints, ¬found token) :
    (condition : Condition) → ((∃ leaf ∈ Token.leavesOfAll condition.tokens, found leaf) ↔
      ∃ setting ∈ condition.settings, ∃ token ∈ setting.tokens, found token)
  | .single setting => by
      rw [tokens, setting.leavesOfAll_tokens, settings]
      simp only [List.mem_singleton, exists_eq_left]
  | .all parts => by
      rw [tokens, exists_leaf_operator (notJoint _ (by simp [joints])), settings]
      exact exists_leafOfAll_iff notJoint parts
  | .any parts => by
      rw [tokens, exists_leaf_operator (notJoint _ (by simp [joints])), settings]
      exact exists_leafOfAll_iff notJoint parts
  | .not part => by
      rw [tokens, exists_leaf_operator (notJoint _ (by simp [joints])), settings]
      exact part.exists_leaf_iff notJoint

theorem exists_leafOfAll_iff {found : Token → Prop} (notJoint : ∀ token ∈ joints, ¬found token) :
    (parts : List Condition) → ((∃ leaf ∈ Token.leavesOfAll (tokensOfAll parts), found leaf) ↔
      ∃ setting ∈ settingsOfAll parts, ∃ token ∈ setting.tokens, found token)
  | [] => iff_of_false (fun ⟨_, impossible, _⟩ => nomatch impossible)
      (fun ⟨_, impossible, _⟩ => nomatch impossible)
  | part :: rest => by
      have comma : ¬∃ leaf ∈ Token.leavesOfAll (if rest.isEmpty then [] else [.punct ',' false]),
          found leaf := by
        have notFound : ¬found (.punct ',' false) := notJoint _ (by simp [joints])
        cases rest with
        | nil => exact fun ⟨_, impossible, _⟩ => nomatch impossible
        | cons _ _ => simp [Token.leavesOfAll, Token.leaves, notFound]
      rw [tokensOfAll, settingsOfAll, Token.leavesOfAll_append, Token.leavesOfAll_append]
      simp only [List.mem_append, or_and_right, exists_or]
      rw [or_iff_right comma, part.exists_leaf_iff notJoint, exists_leafOfAll_iff notJoint rest]

end

/-- The attribute `#[cfg(..)]` with the condition in its brackets. -/
def toAttribute (condition : Condition) : Attribute :=
  .mk false ["cfg"] (.list condition.tokens)

theorem flagsTest_toAttribute_iff (condition : Condition) :
    condition.toAttribute.FlagsTest ↔ ∃ setting ∈ condition.settings, setting.name = "test" := by
  have notJoint : ∀ token ∈ joints, ¬token = .word "test" := by simp [joints]
  have listed : condition.toAttribute.FlagsTest ↔
      ∃ leaf ∈ Token.leavesOfAll condition.tokens, leaf = .word "test" := by
    simp [Attribute.FlagsTest, toAttribute, Attribute.isNamed, Attribute.rooted, Attribute.path,
      Attribute.form]
  rw [listed, condition.exists_leaf_iff notJoint]
  simp only [exists_eq_right, Setting.word_test_mem_tokens_iff]

theorem leaksTest_toAttribute_iff (condition : Condition) :
    condition.toAttribute.LeaksTest ↔ ∃ setting ∈ condition.settings, setting.LeaksTest := by
  have notJoint : ∀ token ∈ joints, ¬token.LeaksTest := by
    have noWord (token : Token) (without : ¬HoldsTest token.text) : ¬token.LeaksTest :=
      fun leaks => without leaks.2
    simp only [joints, List.forall_mem_cons]
    exact ⟨noWord _ (by decide), noWord _ (by decide), noWord _ (by decide), noWord _ (by decide),
      fun _ impossible => nomatch impossible⟩
  have listed : condition.toAttribute.LeaksTest ↔
      ∃ leaf ∈ Token.leavesOfAll condition.tokens, leaf.LeaksTest := by
    simp [Attribute.LeaksTest, toAttribute, Attribute.isNamed, Attribute.rooted, Attribute.path,
      Attribute.form]
  rw [listed, condition.exists_leaf_iff notJoint]
  simp only [Setting.exists_leaksTest_tokens_iff]

/-- `feature = "text"` -/
def feature (text : List Char) : Condition :=
  .single { name := "feature", text := some text }

theorem not_flagsTest_feature (text : List Char) : ¬(feature text).toAttribute.FlagsTest := by
  rw [flagsTest_toAttribute_iff]
  simp [feature, settings]

theorem leaksTest_feature_iff (text : List Char) :
    (feature text).toAttribute.LeaksTest ↔ HoldsTestInside text := by
  have nameless : ¬("feature" ≠ "test" ∧ HoldsTest "feature".toList) := by decide
  rw [leaksTest_toAttribute_iff, feature, settings]
  simp only [List.mem_singleton, exists_eq_left]
  rw [Setting.LeaksTest, or_iff_right nameless]
  simp only [Option.some.injEq, exists_eq_left']

end Condition

/-- An attribute marks test code exactly if it is `#[test]`, a `cfg` with the flag `test`, or a
`cfg` with another token that holds the word. In a condition this is another name that holds the
word, or a text with the word inside, such as the name of a feature. -/
theorem isTestCode_iff (attributes : List Attribute) :
    (isTestCode attributes = true ↔
      (∃ attr ∈ attributes, attr.FlagsTest) ∨ ∃ attr ∈ attributes, attr.LeaksTest) ∧
    (∀ condition : Condition,
      (condition.toAttribute.FlagsTest ↔ ∃ setting ∈ condition.settings, setting.name = "test") ∧
      (condition.toAttribute.LeaksTest ↔ ∃ setting ∈ condition.settings, setting.LeaksTest)) ∧
    ∀ text : List Char,
      isTestCode [(Condition.feature text).toAttribute] = true ↔ HoldsTestInside text := by
  have marked (attributes : List Attribute) : isTestCode attributes = true ↔
      (∃ attr ∈ attributes, attr.FlagsTest) ∨ ∃ attr ∈ attributes, attr.LeaksTest := by
    rw [isTestCode, List.any_eq_true]
    simp only [Attribute.marksTest_iff, and_or_left, exists_or]
  refine ⟨marked attributes, fun condition =>
    ⟨condition.flagsTest_toAttribute_iff, condition.leaksTest_toAttribute_iff⟩, fun text => ?_⟩
  rw [marked]
  simp only [List.mem_singleton, exists_eq_left]
  rw [or_iff_right (Condition.not_flagsTest_feature text), Condition.leaksTest_feature_iff]

/-- Two files with a struct for a feature. -/
def featureUnits : List SourceUnit :=
  [{ name := "src/lib.rs", source := "#[cfg(feature = \"slow-test-data\")] struct Shape;" },
    { name := "src/lib.rs", source := "#[cfg(feature = \"testing\")] struct Shape;" }]

/-- The struct is left out as test code where the name of the feature holds the word inside. -/
theorem featureUnits_leave_out_shape :
    featureUnits.map (fun unit => unit.events.toOption) =
      [some [], some [.enterClass "Shape", .exitClass "Shape"]] ∧
    isTestCode [(Condition.feature "slow-test-data".toList).toAttribute] = true ∧
    ¬(Condition.feature "slow-test-data".toList).toAttribute.FlagsTest := by
  exact ⟨by decide +kernel, by decide +kernel, Condition.not_flagsTest_feature _⟩

end CrateMetrics.Rust
