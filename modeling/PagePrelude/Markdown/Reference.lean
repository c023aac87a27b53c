import PagePrelude.Markdown.CharacterName

/-!
# Character references
-/

namespace PagePrelude.Markdown

/-- The character with a number. Numbers that no text should hold stand for the replacement
character. -/
def numberedCharacter (n : Nat) : Char :=
  let control := n ≤ 8 || n == 0xB || (0xE ≤ n && n ≤ 0x1F) || (0x7F ≤ n && n ≤ 0x9F)
  let noncharacter := (0xFDD0 ≤ n && n ≤ 0xFDEF) || n % 0x10000 ≥ 0xFFFE
  if control || noncharacter || !n.isValidChar then '\uFFFD' else Char.ofNat n

/-- The text of a reference without its marks. -/
def reference? : List Char → Option String
  | '#' :: 'x' :: digits | '#' :: 'X' :: digits =>
    if digits.length ≤ 6 then
      (Number.hexNumber? digits).map fun n => (numberedCharacter n).toString
    else none
  | '#' :: digits =>
    if digits.length ≤ 7 && !digits.isEmpty && digits.all Char.isDigit then
      (String.ofList digits).toNat?.map fun n => (numberedCharacter n).toString
    else none
  | name =>
    if name.length ≤ 31 && name.all Char.isAlphanum then namedCharacters? (String.ofList name)
    else none

/-- The reference after an ampersand: its text, and how many characters it takes. -/
def referenceAfter? (chars : List Char) : Option (String × Nat) :=
  let body := (chars.take 32).takeWhile fun c => c.isAlphanum || c = '#'
  if (chars.drop body.length).head? = some ';' then
    (reference? body).map fun text => (text, body.length + 1)
  else none

/-- A text with its references resolved. `skip` characters belong to a reference that was. -/
def resolveReferences (skip : Nat) : List Char → List Char
  | [] => []
  | c :: rest =>
    match skip, c with
    | skip + 1, _ => resolveReferences skip rest
    | 0, '&' =>
      match referenceAfter? rest with
      | some (text, taken) => text.toList ++ resolveReferences taken rest
      | none => '&' :: resolveReferences 0 rest
    | 0, c => c :: resolveReferences 0 rest

end PagePrelude.Markdown
