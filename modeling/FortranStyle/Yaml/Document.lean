import FortranStyle.Yaml.Node
import FortranStyle.Yaml.Plain

/-!
# The value of a YAML text

Scalars, lists and mappings become values.  A mapping takes over the entries of the
mappings that stand under its key `<<`; its own entries come after them.  Of the
tags only those of text, numbers, truth values, nothing, lists and mappings are
known.  A list or a mapping is no key.

Of several faults the one nearest to the root counts, and of those the first.  Why a
text is no YAML is not said.
-/

namespace FortranStyle.Yaml

/-- A fault at a depth of the tree. -/
abbrev DeepFault := Nat × Fault

/-- Join two parts of a tree. -/
def join {α β γ : Type} (f : α → β → γ) :
    Except DeepFault α → Except DeepFault β → Except DeepFault γ
  | .ok a, .ok b => .ok (f a b)
  | .error first, .error second => .error (if second.1 < first.1 then second else first)
  | .error fault, .ok _ | .ok _, .error fault => .error fault

namespace Node

/-- The last word of a tag, or no word where the tag leaves the choice open; no answer
for a tag that is not known. -/
def knownTag? : Option String → Option (Option String)
  | none => some none
  | some "!" => some none
  | some tag =>
      let known := ["str", "null", "bool", "int", "float", "seq", "map"]
      let isSpelled (name : String) :=
        tag == "!!" ++ name || tag == s!"!<tag:yaml.org,2002:{name}>"
      (known.find? isSpelled).map some

/-- The value of a scalar. -/
def scalarValue (tag : Option String) (text : String) (isPlain : Bool) : Except Fault Value :=
  match knownTag? tag with
  | none => .error (.malformed none)
  | some none => if isPlain || tag.isSome then Plain.value text else .ok (.text text)
  | some (some name) =>
      if name = "str" then .ok (.text text)
      else if name = "null" then .ok .null
      else
        match Plain.value text, name with
        | .ok (.bool truth), "bool" => .ok (.bool truth)
        | .ok (.int n), "int" => .ok (.int n)
        | .ok (.real x), "float" => .ok (.real x)
        | .error (.noSuchValue reason), "int" => .error (.noSuchValue reason)
        | _, _ => .error (.malformed none)

/-- Whether a collection may have a tag. -/
def allowsTag (tag : Option String) (name : String) : Bool :=
  match knownTag? tag with
  | some none => true
  | some (some other) => other == name
  | none => false

/-- Whether a key takes over the entries of other mappings. -/
def isMergeKey : Node → Bool
  | .scalar tag text isPlain => tag.isNone && isPlain && text == "<<"
  | _ => false

/-- The key that a scalar stands for. -/
def keyValue : Node → Except Fault Value
  | .scalar none "=" true => .ok (.text "=")
  | .scalar tag text isPlain => scalarValue tag text isPlain
  | _ => .error (.malformed none)

mutual

/-- The value of a node at a depth. -/
def valueAt (depth : Nat) : Node → Except DeepFault Value
  | .scalar tag text isPlain => (scalarValue tag text isPlain).mapError (depth, ·)
  | .sequence tag items =>
      if allowsTag tag "seq" then (itemsAt (depth + 1) items).map .list
      else .error (depth, .malformed none)
  | .mapping tag entries =>
      if allowsTag tag "map" then
        (entriesAt (depth + 1) entries).map fun (taken, own) => .ofEntries (taken ++ own)
      else .error (depth, .malformed none)

/-- The values of the items of a list. -/
def itemsAt (depth : Nat) : List Node → Except DeepFault (List Value)
  | [] => .ok []
  | item :: rest => join List.cons (valueAt depth item) (itemsAt depth rest)

/-- The entries that a mapping takes over, and its own. -/
def entriesAt (depth : Nat) :
    List (Node × Node) → Except DeepFault (List (Value × Value) × List (Value × Value))
  | [] => .ok ([], [])
  | (key, value) :: rest =>
      let others := entriesAt depth rest
      if key.isMergeKey then
        join (fun found (taken, own) => (found ++ taken, own)) (takenAt depth value) others
      else
        let entry := join Prod.mk ((keyValue key).mapError (depth, ·)) (valueAt depth value)
        join (fun entry (taken, own) => (taken, entry :: own)) entry others

/-- The entries that are taken over from a mapping or from a list of mappings. -/
def takenAt (depth : Nat) : Node → Except DeepFault (List (Value × Value))
  | .mapping _ entries => (entriesAt depth entries).map fun (taken, own) => taken ++ own
  | .sequence _ items => takenFrom depth items
  | .scalar .. => .error (depth, .malformed none)

/-- The entries of a list of mappings.  The first mapping comes last, so that its
values win. -/
def takenFrom (depth : Nat) : List Node → Except DeepFault (List (Value × Value))
  | [] => .ok []
  | .mapping _ entries :: rest =>
      join (fun (taken, own) others => others ++ taken ++ own) (entriesAt depth entries)
        (takenFrom depth rest)
  | _ :: _ => .error (depth, .malformed none)

end

end Node

/-- A reader of YAML texts: what makes a value of a text, or says that there is none.
Other readers may know more tags, and may say why a text is no YAML. -/
abbrev Reader := List Char → Except Fault Value

/-- The value of a text.  A text without a document stands for nothing. -/
def valueOf : Reader := fun text =>
  match (Token.ofText? text).bind Node.ofTokens? with
  | none => .error (.malformed none)
  | some none => .ok .null
  | some (some node) => (node.valueAt 0).mapError (·.2)

end FortranStyle.Yaml
