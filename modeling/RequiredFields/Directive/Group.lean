/-!
# The parenthesis group of a directive

A group runs from an opening parenthesis to the closing one that matches it. A backslash takes the
character after it out of the count. Inside the group a backslash before a comma, a parenthesis or
a backslash stands for that character; before any other character it stands for itself.
-/

namespace RequiredFields.Directive

/-- The body of a group and the text after it, for a text that starts behind the opening
parenthesis, while `inner` groups inside it are open. There is none when the group is never
closed. -/
def closeGroup? (inner : Nat) : List Char → Option (List Char × List Char)
  | [] => none
  | ['\\'] => none
  | '\\' :: c :: text =>
    (closeGroup? inner text).map fun (body, rest) => ('\\' :: c :: body, rest)
  | '(' :: text => (closeGroup? (inner + 1) text).map fun (body, rest) => ('(' :: body, rest)
  | ')' :: text =>
    -- Outside all inner groups this is the end of the group itself.
    match inner with
    | 0 => some ([], text)
    | inner + 1 => (closeGroup? inner text).map fun (body, rest) => (')' :: body, rest)
  | c :: text => (closeGroup? inner text).map fun (body, rest) => (c :: body, rest)

/-- The characters that a backslash inside a group stands in front of without being kept. -/
def isEscapable (c : Char) : Bool :=
  c == ',' || c == '(' || c == ')' || c == '\\'

/-- The body of a group without the backslashes that only protect the next character. -/
def unescape : List Char → List Char
  | [] => []
  | ['\\'] => ['\\']
  | '\\' :: c :: body =>
    if isEscapable c then c :: unescape body else '\\' :: unescape (c :: body)
  | c :: body => c :: unescape body

end RequiredFields.Directive
