import RequiredFields.Configuration.Tree
import RequiredFields.Json.Value
import RequiredFields.Yaml.Node

/-!
# Configurations in JSON and YAML

What a JSON text and what a YAML text of version 1.2 say to a configuration. A plain YAML scalar is
a truth value, a number or the absence of a value where it looks like one; any other scalar is a
text. No YAML mapping has a key twice, and keys are texts or whole numbers. A YAML file without a
document holds an empty table.
-/

namespace RequiredFields.Configuration

/-! ## JSON -/

mutual

/-- The tree of a JSON value. A whole number that has no 64 bits with a sign is a float. -/
def Tree.ofJson : Json.Value → Tree
  | .null => .nothing
  | .boolean b => .boolean b
  | .number (.integer n) =>
    if n ≤ maxSigned then .integer n
    else .float (Binary64.ofRatio false (n.toNat * Binary64.one) 1)
  | .number (.float x) => .float x
  | .string s => .text s
  | .array xs => .list (Tree.ofItems xs)
  | .object members => .table (Tree.ofMembers [] members)

/-- The trees of the elements of an array. -/
def Tree.ofItems : List Json.Value → List Tree
  | [] => []
  | x :: xs => Tree.ofJson x :: Tree.ofItems xs

/-- The entries of an object behind those so far. Of two members of one name the last one counts. -/
def Tree.ofMembers (entries : List (String × Tree)) :
    List (String × Json.Value) → List (String × Tree)
  | [] => entries
  | (name, x) :: members => Tree.ofMembers (replaceEntry name (Tree.ofJson x) entries) members

end

/-! ## YAML scalars -/

/-- What a YAML node says. -/
inductive Datum where
  /-- A scalar that does not fit its tag, or an alias inside the collection it refers to. -/
  | unfit
  /-- The absence of a value. -/
  | nothing
  /-- A truth value. -/
  | boolean (value : Bool)
  /-- A whole number. -/
  | integer (value : Int)
  /-- Any other number, as it is written. -/
  | real (text : String)
  /-- A text. -/
  | text (value : String)
  /-- A list. -/
  | list (items : List Datum)
  /-- A table, with its keys and their values. -/
  | table (entries : List (Datum × Datum))

/-- Spellings of infinity and of what is not a number. Such a scalar is a number, but one that no
configuration can hold. -/
def isSpecialFloat (text : String) : Bool :=
  [".inf", ".Inf", ".INF", "+.inf", "+.Inf", "+.INF", "-.inf", "-.Inf", "-.INF", ".nan",
    ".NAN"].contains text

/-- Whether a text is a number. -/
def isReal (text : String) : Bool :=
  isSpecialFloat text || (Binary64.ofText? text.toList).isSome

/-- The whole number that a text says: hexadecimal behind `0x`, octal behind `0o`, decimal
otherwise, there with one more plus sign than usual allowed. -/
def integerOfScalar? (text : String) : Option Int :=
  let special :=
    match text.toList with
    | '0' :: 'x' :: digits => integerOfText? 16 Digit.hex? digits
    | '0' :: 'o' :: digits => integerOfText? 8 Digit.octal? digits
    | '+' :: digits => decimalOfText? digits
    | _ => none
  special <|> decimalOfText? text.toList

/-- What a plain scalar without a tag says. -/
def ofPlainScalar (text : String) : Datum :=
  match integerOfScalar? text with
  | some n => .integer n
  | none =>
    if text = "~" ∨ text = "null" ∨ text = "" then .nothing
    else if text = "true" then .boolean true
    else if text = "false" then .boolean false
    else if isReal text then .real text
    else .text text

/-- What a plain scalar with a tag of the format itself says. -/
def ofTaggedScalar (suffix text : String) : Datum :=
  match suffix with
  | "bool" =>
    if text = "true" then .boolean true
    else if text = "false" then .boolean false
    else .unfit
  | "int" => ((decimalOfText? text.toList).map Datum.integer).getD .unfit
  | "float" => if isReal text then .real text else .unfit
  | "null" => if text = "~" ∨ text = "null" then .nothing else .unfit
  | _ => .text text

/-- What a scalar says. Only a plain one can be anything but a text. -/
def ofScalar (tag : Option Yaml.Tag) (style : Yaml.Style) (text : String) : Datum :=
  match style, tag with
  | .plain, none => ofPlainScalar text
  | .plain, some tag =>
    if tag.stem = Yaml.standardStem then ofTaggedScalar tag.suffix text else .text text
  | _, _ => .text text

/-! ## YAML documents -/

/-- The entries of a mapping from its keys and values in turn. Where a key should stand, what is
unfit is passed over, and a key at the end without a value is dropped. -/
def pairUp : List Datum → List (Datum × Datum)
  | .unfit :: data => pairUp data
  | key :: value :: data => (key, value) :: pairUp data
  | _ => []

mutual

/-- Whether two keys are the same. A text and a number with the same digits are two keys, and so are
two spellings of a number that is not whole. -/
def Datum.isSame : Datum → Datum → Bool
  | .unfit, .unfit => true
  | .nothing, .nothing => true
  | .boolean b, .boolean b' => b == b'
  | .integer n, .integer n' => n == n'
  | .real text, .real text' => text == text'
  | .text s, .text s' => s == s'
  | .list items, .list items' => haveSameItems items items'
  | .table entries, .table entries' => haveSameEntries entries entries'
  | _, _ => false

/-- Whether two lists have the same items in the same order. -/
def haveSameItems : List Datum → List Datum → Bool
  | [], [] => true
  | d :: ds, d' :: ds' => d.isSame d' && haveSameItems ds ds'
  | _, _ => false

/-- Whether two tables have the same entries in the same order. -/
def haveSameEntries : List (Datum × Datum) → List (Datum × Datum) → Bool
  | [], [] => true
  | (key, value) :: entries, (key', value') :: entries' =>
    key.isSame key' && value.isSame value' && haveSameEntries entries entries'
  | _, _ => false

end

/-- Whether a key is there twice. -/
def hasTwice : List Datum → Bool
  | [] => false
  | key :: keys => keys.any key.isSame || hasTwice keys

/-- The table of some entries; none if a key occurs twice. -/
def tableOfData? (entries : List (Datum × Datum)) : Option Datum :=
  if hasTwice (entries.map (·.1)) then none else some (.table entries)

mutual

/-- What a node says; none if a mapping in it has a key twice. -/
def datumOfNode? : Yaml.Node → Option Datum
  | .scalar tag style text => some (ofScalar tag style text)
  | .sequence items => (dataOfNodes? items).map .list
  | .mapping entries => (dataOfEntries? entries).bind fun data => tableOfData? (pairUp data)
  | .openAlias => some .unfit

/-- What the items of a sequence say. -/
def dataOfNodes? : List Yaml.Node → Option (List Datum)
  | [] => some []
  | node :: nodes => do
    let d ← datumOfNode? node
    let ds ← dataOfNodes? nodes
    return d :: ds

/-- What the keys and values of a mapping say, in turn. -/
def dataOfEntries? : List (Yaml.Node × Yaml.Node) → Option (List Datum)
  | [] => some []
  | (key, value) :: entries => do
    let k ← datumOfNode? key
    let v ← datumOfNode? value
    let ds ← dataOfEntries? entries
    return k :: v :: ds

end

/-! ## Trees of YAML documents -/

/-- Why a text gives no table. -/
inductive TextFault where
  /-- It is broken or holds something else. -/
  | broken
  /-- Reading it breaks the program down. -/
  | breakdown
  deriving DecidableEq, Repr

/-- The name that a key is: a text or the digits of a whole number. -/
def Datum.name? : Datum → Option String
  | text name => some name
  | integer n => some (toString n)
  | _ => none

mutual

/-- The tree of what a node says. Infinity and what is not a number have none. -/
def Datum.toTree : Datum → Except TextFault Tree
  | .unfit | .nothing => .ok .nothing
  | .boolean b => .ok (.boolean b)
  | .integer n => .ok (.integer n)
  | .real text =>
    match Binary64.ofText? text.toList with
    | some x => .ok (.float x)
    | none => .error .broken
  | .text s => .ok (.text s)
  | .list items => (treesOfData items).map .list
  | .table entries => (entriesOfData [] entries).map .table

/-- The trees of the items of a list. -/
def treesOfData : List Datum → Except TextFault (List Tree)
  | [] => .ok []
  | d :: ds => do
    let t ← d.toTree
    let ts ← treesOfData ds
    return t :: ts

/-- The entries of a table behind those so far. Of a text and a number with the same digits the last
one counts, and any other key breaks the program down. -/
def entriesOfData (found : List (String × Tree)) :
    List (Datum × Datum) → Except TextFault (List (String × Tree))
  | [] => .ok found
  | (key, value) :: entries =>
    match key.name? with
    | none => .error .breakdown
    | some name => do
      let t ← value.toTree
      entriesOfData (replaceEntry name t found) entries

end

/-- The tree of the only document of a YAML text. -/
def treeOfYaml (text : String) : Except TextFault Tree :=
  match Yaml.documentOf? .v12 text with
  | .error _ => .error .broken
  | .ok none => .ok (.table [])
  | .ok (some node) =>
    match datumOfNode? node with
    | none => .error .broken
    | some d => d.toTree

end RequiredFields.Configuration
