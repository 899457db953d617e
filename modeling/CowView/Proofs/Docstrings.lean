import CowView.Generated.Module

/-!
Docstrings in generated classes. `Text.Literal.read` reads a triple quoted literal: it finds the closing quotes first,
which no backslash may escape, and takes the escapes out of what stands before them. Whatever a documentation says, the
literal that is written for it ends on its own last line and has the lines of the documentation for its value
(`Generated.docstring_reads`).
-/

namespace CowView

namespace Text.Literal

/-- The quotes around a literal of several lines. -/
def mark : List Char := ['"', '"', '"']

/-- Cuts a text at the first three quotes in a row that are not escaped: what stands before them and what follows. -/
def close? : List Char → Option (List Char × List Char)
  | '\\' :: escaped :: rest => (close? rest).map fun parts => ('\\' :: escaped :: parts.1, parts.2)
  | '"' :: '"' :: '"' :: rest => some ([], rest)
  | character :: rest => (close? rest).map fun parts => (character :: parts.1, parts.2)
  | [] => none

def digit? (base : Nat) (character : Char) : Option Nat :=
  let code := character.toNat
  let value :=
    if '0' ≤ character ∧ character ≤ '9' then some (code - '0'.toNat)
    else if 'a' ≤ character ∧ character ≤ 'f' then some (code - 'a'.toNat + 10)
    else if 'A' ≤ character ∧ character ≤ 'F' then some (code - 'A'.toNat + 10)
    else none
  value.filter (· < base)

def coded? (base : Nat) (digits : List Char) : Option Char := do
  let values ← digits.mapM (digit? base)
  let code := values.foldl (fun code value => base * code + value) 0
  if code.isValidChar then some (Char.ofNat code) else none

def control? : Char → Option Char
  | 'a' => some '\x07'
  | 'b' => some '\x08'
  | 't' => some '\t'
  | 'n' => some '\n'
  | 'v' => some '\x0b'
  | 'f' => some '\x0c'
  | 'r' => some '\r'
  | _ => none

/-- What an escape stands for, given what follows its backslash, and how much of that belongs to it. An escaped line
feed stands for nothing, and a backslash that starts no escape for itself. Characters may be named. -/
def escape? (named : List Char → Option Char) : List Char → Option (List Char × Nat)
  | [] => none
  | first :: rest =>
    let single := fun (found : Option Char) (count : Nat) => found.map fun character => ([character], count)
    if first = '\n' then some ([], 1)
    else if first = '\\' ∨ first = '"' ∨ first = singleQuote then some ([first], 1)
    else if let some character := control? first then some ([character], 1)
    else if first = 'x' then if rest.length < 2 then none else single (coded? 16 (rest.take 2)) 3
    else if first = 'u' then if rest.length < 4 then none else single (coded? 16 (rest.take 4)) 5
    else if first = 'U' then if rest.length < 8 then none else single (coded? 16 (rest.take 8)) 9
    else if first = 'N' then
      let name := (rest.drop 1).takeWhile (· ≠ '\x7d')
      if rest.head? = some '\x7b' ∧ name.length + 1 < rest.length then single (named name) (name.length + 3) else none
    else
      let octal := ((first :: rest).take 3).takeWhile fun character => (digit? 8 character).isSome
      if octal.isEmpty then some (['\\', first], 1) else single (coded? 8 octal) octal.length

def evaluate (named : List Char → Option Char) : List Char → Option (List Char)
  | [] => some []
  | character :: rest =>
    if character = '\\' then do
      let (value, count) ← escape? named rest
      return value ++ (← evaluate named (rest.drop count))
    else (evaluate named rest).map (character :: ·)
termination_by text => text.length
decreasing_by all_goals simp only [List.length_cons, List.length_drop]; omega

/-- Reads the literal that a text starts with: its value and what follows it. -/
def read (named : List Char → Option Char) : List Char → Option (List Char × List Char)
  | '"' :: '"' :: '"' :: text => do
    let (body, rest) ← close? text
    return (← evaluate named body, rest)
  | _ => none

/-- The texts can be cut at the same quotes, the first one behind more characters. -/
theorem close?_cons {character : Char} {rest : List Char} (plain : character ≠ '\\')
    (alone : ∀ behind, character :: rest ≠ '"' :: '"' :: '"' :: behind) :
    close? (character :: rest) = (close? rest).map fun parts => (character :: parts.1, parts.2) := by
  rw [close?]
  · rintro escaped behind rfl
    exact absurd rfl plain
  · rintro behind rfl rfl
    exact absurd rfl (alone behind)

end Text.Literal

/-! ### Lines -/

namespace Text

def onFirst (front : List Char) : List (List Char) → List (List Char)
  | [] => [front]
  | line :: lines => (front ++ line) :: lines

theorem onFirst_onFirst (front back : List Char) (lines : List (List Char)) :
    onFirst front (onFirst back lines) = onFirst (front ++ back) lines := by
  cases lines <;> simp [onFirst]

/-- What was read of the first line only stands in front of it. -/
theorem splitLinesFrom_append {back : List Char} (some : back ≠ []) (front text : List Char) :
    splitLinesFrom (front ++ back) text = onFirst back.reverse (splitLinesFrom front text) := by
  fun_induction splitLinesFrom front text with
  | case1 front empty => simp [splitLinesFrom, onFirst, some, List.isEmpty_iff.mp empty]
  | case2 front filled => simp [splitLinesFrom, onFirst, some]
  | case3 front rest ih => simp [splitLinesFrom, onFirst]
  | case4 front character rest single ends ih =>
    rw [splitLinesFrom, if_pos ends]
    · simp [onFirst]
    · exact single
  | case5 front character rest single inside ih =>
    rw [splitLinesFrom, if_neg inside]
    · exact ih
    · exact single

theorem splitLines_inside {character : Char} (inside : isLineBreak character = false) (rest : List Char) :
    splitLines (character :: rest) = onFirst [character] (splitLines rest) := by
  have whole := splitLinesFrom_append (List.cons_ne_nil character []) [] rest
  rw [splitLines, splitLinesFrom, inside, if_neg Bool.false_ne_true]
  · exact whole
  · intro behind feed
    rw [feed] at inside
    cases inside

/-- A line ends at a break; a return and a feed together are one. -/
theorem splitLines_break {character : Char} (ends : isLineBreak character = true) {rest : List Char}
    (single : ∀ behind, character = '\r' → rest ≠ '\n' :: behind) :
    splitLines (character :: rest) = [] :: splitLines rest := by
  rw [splitLines, splitLinesFrom, if_pos ends]
  · rfl
  · exact single

theorem splitLines_ends {character : Char} (ends : isLineBreak character = true) (rest : List Char) :
    ∃ lines, splitLines (character :: rest) = [] :: lines := by
  unfold splitLines splitLinesFrom
  split
  next same => cases same
  next same =>
    cases same
    exact ⟨_, rfl⟩
  next same =>
    cases same
    exact ⟨_, if_pos ends⟩

theorem splitLines_ne_nil {text : List Char} (filled : text ≠ []) : splitLines text ≠ [] := by
  cases text with
  | nil => exact absurd rfl filled
  | cons character rest =>
    cases inside : isLineBreak character with
    | true =>
      obtain ⟨lines, found⟩ := splitLines_ends inside rest
      rw [found]
      exact List.cons_ne_nil _ _
    | false =>
      rw [splitLines_inside inside]
      cases splitLines rest <;> exact List.cons_ne_nil _ _

theorem head?_splitLines (text : List Char) : ∀ line ∈ (splitLines text).head?, line <+: text := by
  induction text with
  | nil => nofun
  | cons character rest ih =>
    intro line first
    cases inside : isLineBreak character with
    | true =>
      obtain ⟨lines, found⟩ := splitLines_ends inside rest
      rw [found] at first
      cases first
      exact List.nil_prefix
    | false =>
      rw [splitLines_inside inside] at first
      cases lines : splitLines rest with
      | nil =>
        rw [lines] at first
        cases first
        exact ⟨rest, rfl⟩
      | cons own others =>
        rw [lines] at first ih
        cases first
        exact List.cons_prefix_cons.mpr ⟨rfl, ih own rfl⟩

end Text

/-! ### Escaped texts -/

namespace DocComment

open Text

def escaped (text : List Char) : List Char := escapeQuotes (escapeBackslashes text)

theorem escapeBackslashes_cons {character : Char} (plain : character ≠ '\\') (rest : List Char) :
    escapeBackslashes (character :: rest) = character :: escapeBackslashes rest := by
  rw [escapeBackslashes, if_neg plain]

theorem escaped_backslash (rest : List Char) : escaped ('\\' :: rest) = '\\' :: '\\' :: escaped rest := by
  rw [escaped, escapeBackslashes, if_pos rfl, escapeQuotes, escapeQuotes, escaped]
  all_goals nofun

theorem escaped_quotes (rest : List Char) : escaped ('"' :: '"' :: '"' :: rest) =
    '\\' :: '"' :: '\\' :: '"' :: '\\' :: '"' :: escaped rest := by
  have plain : '"' ≠ '\\' := by decide
  rw [escaped, escapeBackslashes_cons plain, escapeBackslashes_cons plain, escapeBackslashes_cons plain, escapeQuotes]
  rfl

/-- Quotes are not made by doubling backslashes. -/
theorem escapeBackslashes_eq_quote {text rest : List Char} (same : escapeBackslashes text = '"' :: rest) :
    ∃ behind, text = '"' :: behind ∧ rest = escapeBackslashes behind := by
  cases text with
  | nil => cases same
  | cons character behind =>
    rw [escapeBackslashes] at same
    split at same
    · cases same
    · cases same
      exact ⟨behind, rfl, rfl⟩

theorem escaped_cons {character : Char} {rest : List Char} (plain : character ≠ '\\')
    (alone : ∀ behind, character :: rest ≠ '"' :: '"' :: '"' :: behind) :
    escaped (character :: rest) = character :: escaped rest := by
  rw [escaped, escapeBackslashes_cons plain, escapeQuotes]
  · rfl
  · rintro behind rfl same
    obtain ⟨second, rfl, behind⟩ := escapeBackslashes_eq_quote same
    obtain ⟨third, rfl, -⟩ := escapeBackslashes_eq_quote behind.symm
    exact alone third rfl

/-- An escaped text is empty, starts with a backslash, or starts as the text does. -/
theorem escaped_eq_cons {text rest : List Char} {character : Char} (same : escaped text = character :: rest)
    (plain : character ≠ '\\') : ∃ behind, text = character :: behind ∧ rest = escaped behind := by
  cases text with
  | nil => cases same
  | cons first behind =>
    by_cases backslash : first = '\\'
    · rw [backslash, escaped_backslash] at same
      cases same
      exact absurd rfl plain
    · by_cases quotes : ∃ third, first :: behind = '"' :: '"' :: '"' :: third
      · obtain ⟨third, triple⟩ := quotes
        rw [triple, escaped_quotes] at same
        cases same
        exact absurd rfl plain
      · rw [escaped_cons backslash (not_exists.mp quotes)] at same
        cases same
        exact ⟨behind, rfl, rfl⟩

end DocComment

/-! ### Literals -/

namespace Text.Literal

variable {named : List Char → Option Char} {front back value other : List Char}

def Says (named : List Char → Option Char) (written value : List Char) : Prop :=
  ∀ tail, close? (written ++ tail) = (close? tail).map (fun parts => (written ++ parts.1, parts.2)) ∧
    evaluate named (written ++ tail) = (evaluate named tail).map (value ++ ·)

namespace Says

theorem nil : Says named [] [] := by
  intro tail
  simp

theorem append (first : Says named front value) (second : Says named back other) :
    Says named (front ++ back) (value ++ other) := by
  intro tail
  rw [List.append_assoc, (first _).1, (first _).2, (second tail).1, (second tail).2, Option.map_map, Option.map_map]
  constructor <;> congr 1 <;> funext parts <;> simp

/-- A character stands for itself if it neither escapes what follows nor is the first of three quotes. -/
theorem cons {character : Char} (plain : character ≠ '\\')
    (alone : ∀ tail behind, character :: (front ++ tail) ≠ '"' :: '"' :: '"' :: behind)
    (stated : Says named front value) : Says named (character :: front) (character :: value) := by
  intro tail
  rw [List.cons_append, close?_cons plain (alone tail), evaluate, if_neg plain, (stated tail).1, (stated tail).2,
    Option.map_map, Option.map_map]
  exact ⟨rfl, rfl⟩

theorem single {character : Char} (plain : character ≠ '\\') (quote : character ≠ '"') :
    Says named [character] [character] :=
  nil.cons plain fun _ _ same => quote (List.cons.inj same).1

/-- An escaped character stands for itself if it is a backslash or a quote. -/
theorem escape {character : Char} (marked : character = '\\' ∨ character = '"') :
    Says named ['\\', character] [character] := by
  intro tail
  have found : escape? named (character :: tail) = some ([character], 1) := by
    rcases marked with rfl | rfl <;> rfl
  change close? ('\\' :: character :: tail) = _ ∧ evaluate named ('\\' :: character :: tail) = _
  rw [close?, evaluate, if_pos rfl, found]
  refine ⟨rfl, ?_⟩
  cases later : evaluate named tail <;> simp [later]

theorem blank (count : Nat) : Says named (List.replicate count ' ') (List.replicate count ' ') := by
  induction count with
  | zero => exact nil
  | succ count ih => exact (single (by decide) (by decide)).append ih

theorem read (stated : Says named front value) (after : List Char) :
    read named (mark ++ (front ++ (mark ++ after))) = some (value, after) := by
  have closed : close? (front ++ (mark ++ after)) = some (front, after) := by
    rw [(stated _).1]
    simp [mark, close?]
  have valued : evaluate named front = some value := by
    have whole := (stated []).2
    rw [List.append_nil, evaluate] at whole
    simpa using whole
  change Literal.read named ('"' :: '"' :: '"' :: (front ++ (mark ++ after))) = _
  rw [Literal.read, closed]
  simp [valued]

end Says

end Text.Literal

namespace DocComment

open Text Literal

variable {named : List Char → Option Char}

/-- Behind an escaped line the line feed keeps its last quotes apart from others. -/
theorem apart_escaped {character : Char} {rest : List Char}
    (alone : ∀ behind, character :: rest ≠ '"' :: '"' :: '"' :: behind) (tail behind : List Char) :
    character :: (escaped rest ++ ['\n'] ++ tail) ≠ '"' :: '"' :: '"' :: behind := by
  have quote : '"' ≠ '\\' := by decide
  -- a quote behind the first one is a quote of the line, and so is one behind that
  have front {line behind : List Char} (same : escaped line ++ '\n' :: tail = '"' :: behind) :
      ∃ others, line = '"' :: others ∧ behind = escaped others ++ '\n' :: tail := by
    cases shown : escaped line with
    | nil =>
      rw [shown] at same
      cases same
    | cons first second =>
      rw [shown] at same
      cases same
      obtain ⟨others, rfl, rfl⟩ := escaped_eq_cons shown quote
      exact ⟨others, rfl, rfl⟩
  intro same
  rw [List.append_assoc, List.singleton_append] at same
  obtain ⟨rfl, next⟩ := List.cons.inj same
  obtain ⟨second, rfl, later⟩ := front next
  obtain ⟨third, rfl, -⟩ := front later.symm
  exact alone third rfl

theorem says_escaped : (line : List Char) → Says named (escaped line ++ ['\n']) (line ++ ['\n'])
  | [] => Says.single (by decide) (by decide)
  | character :: rest => by
    by_cases backslash : character = '\\'
    · rw [backslash, escaped_backslash]
      exact (Says.escape (.inl rfl)).append (says_escaped rest)
    · by_cases quotes : ∃ third, character :: rest = '"' :: '"' :: '"' :: third
      · obtain ⟨third, triple⟩ := quotes
        have shorter : third.length < (character :: rest).length := by rw [triple]; simp; omega
        have quote : Says named ['\\', '"'] ['"'] := .escape (.inr rfl)
        rw [triple, escaped_quotes]
        exact quote.append (quote.append (quote.append (says_escaped third)))
      · rw [escaped_cons backslash (not_exists.mp quotes)]
        exact (says_escaped rest).cons backslash (apart_escaped (not_exists.mp quotes))
termination_by line => line.length
decreasing_by all_goals simp only [List.length_cons] at *; omega

theorem splitLines_escaped : (text : List Char) → splitLines (escaped text) = (splitLines text).map escaped
  | [] => rfl
  | character :: rest => by
    cases inside : isLineBreak character with
    | true =>
      have plain : character ≠ '\\' := by
        rintro rfl
        cases inside
      have alone {rest : List Char} (behind : List Char) : character :: rest ≠ '"' :: '"' :: '"' :: behind := by
        intro same
        rw [(List.cons.inj same).1] at inside
        cases inside
      rw [escaped_cons plain alone]
      -- a carriage return and a feed are one break, and the escaped text starts with a feed only where the text does
      by_cases both : character = '\r' ∧ ∃ behind, rest = '\n' :: behind
      · obtain ⟨rfl, behind, pair⟩ := both
        have shorter : behind.length < rest.length := by rw [pair]; exact Nat.lt_succ_self _
        rw [pair, escaped_cons (by decide) (by nofun)]
        exact congrArg ([] :: ·) (splitLines_escaped behind)
      · rw [splitLines_break inside, splitLines_break inside, splitLines_escaped rest]
        · rfl
        · rintro behind rfl rfl
          exact both ⟨rfl, behind, rfl⟩
        · rintro behind rfl same
          obtain ⟨others, rfl, -⟩ := escaped_eq_cons same (by decide)
          exact both ⟨rfl, others, rfl⟩
    | false =>
      by_cases backslash : character = '\\'
      · rw [backslash, escaped_backslash, splitLines_inside rfl, splitLines_inside rfl, splitLines_inside rfl,
          splitLines_escaped rest]
        cases splitLines rest with
        | nil => rfl
        | cons line lines => simp [onFirst, escaped_backslash]
      · by_cases quotes : ∃ third, character :: rest = '"' :: '"' :: '"' :: third
        · obtain ⟨third, triple⟩ := quotes
          have shorter : third.length < (character :: rest).length := by rw [triple]; simp; omega
          rw [triple, escaped_quotes]
          simp only [splitLines_inside (show isLineBreak '"' = false from rfl),
            splitLines_inside (show isLineBreak '\\' = false from rfl), onFirst_onFirst, splitLines_escaped third]
          cases splitLines third with
          | nil => rfl
          | cons line lines => simp [onFirst, escaped_quotes]
        · have alone := not_exists.mp quotes
          rw [escaped_cons backslash alone, splitLines_inside inside, splitLines_inside inside, splitLines_escaped rest]
          cases shown : splitLines rest with
          | nil =>
            have own : escaped [character] = [character] := escaped_cons backslash nofun
            simp [onFirst, own]
          | cons line lines =>
            obtain ⟨behind, rfl⟩ := head?_splitLines rest line (by rw [shown]; rfl)
            have own : escaped (character :: line) = character :: escaped line := by
              refine escaped_cons backslash fun third triple => alone (third ++ behind) ?_
              rw [← List.cons_append, triple]
              rfl
            simp [onFirst, own]
termination_by text => text.length
decreasing_by all_goals simp only [List.length_cons] at *; omega

end DocComment

/-! ### The literal of a documentation -/

namespace Generated

open Text

def indented (line : List Char) : List Char := List.replicate 4 ' ' ++ (line ++ ['\n'])

/-- The documentation that a class has of some lines: a line feed, each line indented, and the indent of the closing
quotes. -/
def inset (lines : List (List Char)) : List Char := '\n' :: (lines.flatMap indented ++ List.replicate 4 ' ')

theorem toList_ofLines (lines : List String) :
    (ofLines lines).toList = lines.flatMap fun line => line.toList ++ ['\n'] := by
  induction lines with
  | nil => rfl
  | cons line lines ih =>
    rw [ofLines] at ih ⊢
    rw [List.map_cons, String.join_cons, String.toList_append, String.toList_append, ih]
    rfl

/-- The text of a documentation: quotes, its lines, and quotes on a line of their own. -/
theorem toList_docstring {lines : List String} (some : lines ≠ []) : (ofLines (docstring lines)).toList =
    List.replicate 4 ' ' ++ (Literal.mark ++ (inset (lines.map String.toList) ++ (Literal.mark ++ ['\n']))) := by
  have filled : lines.isEmpty = false := by simp [some]
  have line (text : String) : ("    " ++ text).toList ++ ['\n'] = indented text.toList := by
    simp [indented, List.replicate]
  have body : ((lines.map ("    " ++ ·)).flatMap fun line => line.toList ++ ['\n']) =
      (lines.map String.toList).flatMap indented := by
    rw [List.flatMap_map, List.flatMap_map]
    exact congrArg (List.flatMap · lines) (funext line)
  rw [toList_ofLines, docstring, filled, if_neg Bool.false_ne_true, List.flatMap_cons, List.flatMap_append, body]
  simp [inset, tripleQuote, Literal.mark, List.replicate]

theorem says_inset (named : List Char → Option Char) (lines : List (List Char)) :
    Literal.Says named (inset (lines.map DocComment.escaped)) (inset lines) := by
  have indent : Literal.Says named (List.replicate 4 ' ') (List.replicate 4 ' ') := .blank 4
  have feed : Literal.Says named ['\n'] ['\n'] := .single (by decide) (by decide)
  have inner : Literal.Says named ((lines.map DocComment.escaped).flatMap indented) (lines.flatMap indented) := by
    induction lines with
    | nil => exact .nil
    | cons line lines ih => exact (indent.append (DocComment.says_escaped line)).append ih
  exact feed.append (inner.append indent)

/-- **A documentation stays inside its literal.** Whatever it says, and whatever the class goes on with, the literal
that is written for it is closed by the quotes on its own last line, and its value are the lines of the
documentation. -/
theorem docstring_reads (named : List Char → Option Char) {docs : String} (filled : docs ≠ "") (after : List Char) :
    ∃ literal, (ofLines (docstring (DocComment.lines docs))).toList = List.replicate 4 ' ' ++ literal ∧
      Literal.read named (literal ++ after) = some (inset (splitLines docs.toList), '\n' :: after) := by
  have lines : (DocComment.lines docs).map String.toList = (splitLines docs.toList).map DocComment.escaped := by
    rw [DocComment.lines, List.map_map, ← DocComment.splitLines_escaped]
    simp [DocComment.escaped, Function.comp_def]
  have some : DocComment.lines docs ≠ [] := by
    intro empty
    rw [empty, List.map_nil] at lines
    exact splitLines_ne_nil (by simpa using filled) (List.map_eq_nil_iff.mp lines.symm)
  refine ⟨_, toList_docstring some, ?_⟩
  rw [lines]
  have read := (says_inset named (splitLines docs.toList)).read ('\n' :: after)
  simpa using read

/-- Four quotes, a backslash in front of quotes, a separator of lines, and a backslash at the end. -/
theorem docstring_reads_quotes : "\"\"\"\"\u2028\\\"\"\"\\" ≠ "" ∧
    ∃ literal, (ofLines (docstring (DocComment.lines "\"\"\"\"\u2028\\\"\"\"\\"))).toList =
        List.replicate 4 ' ' ++ literal ∧
      Literal.read (fun _ => none) (literal ++ "    pass\n".toList) =
        some ("\n    \"\"\"\"\n    \\\"\"\"\\\n    ".toList, "\n    pass\n".toList) := by
  have filled : "\"\"\"\"\u2028\\\"\"\"\\" ≠ "" := by decide
  obtain ⟨literal, written, read⟩ := docstring_reads (fun _ => none) filled "    pass\n".toList
  refine ⟨filled, literal, written, read.trans ?_⟩
  rfl

end Generated

end CowView
