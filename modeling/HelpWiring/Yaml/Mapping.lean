import HelpWiring.Yaml.Token

/-!
# Mappings of Texts

A catalog file is one YAML document holding one mapping from scalars to
scalars. This module reads the tokens of such a document: the directives in
front of it, the pairs of its mapping, indented or in braces, and nothing after
it but closing markers. Every scalar is its text, whatever its style and its
tag; a key or a value that is left out is the empty text. A text without a
document, and a document without content, is the empty mapping.

Two rules apply to the pairs once they are read. An alias stands for the node
that carries its anchor. And a key written twice counts once: it keeps its
first place and takes its last value.

Anchors are numbered. A name that is declared gets the number of names known so
far, and the last node to get a number is the one that aliases with that number
stand for. As long as no name is declared twice, numbers and names are the same
thing.

## Main definitions

* `Node`: A key or a value as it is written.
* `document?`: The document that some tokens make up.
* `Anchors`: Names, their numbers, and the nodes that have them.
* `resolve?`: Pairs of texts out of pairs of nodes.
* `update`, `ofPairs`: One more pair in a mapping, and a mapping out of pairs.
* `pairs?`: The pairs that a text holds, as they are written.
* `mapping?`: The mapping that a text holds.

## Theorems

* `update_keys`: A pair with a new key comes last, one with a known key moves
  nothing.
-/

namespace HelpWiring

namespace Yaml

/-- What a key or a value says. -/
inductive Content
  | text (t : Text)
  | reference (name : Text)
  deriving DecidableEq

/-- A key or a value as it is written. -/
structure Node where
  anchor : Option Text
  content : Content
  deriving DecidableEq

namespace Node

/-- A key or a value that is left out. -/
def blank : Node := ⟨none, .text []⟩

end Node

/-- The tag handles that need no declaration. -/
def defaultHandles : List Text := [['!'], ['!', '!']]

/-- Whether a tag's handle can be used. -/
def isKnownHandle (handles : List Text) (handle : Text) : Bool :=
  handle.isEmpty || handles.contains handle || defaultHandles.contains handle

/-- What stands in front of a node: an anchor and a tag, each at most once, in
    either order. Says also whether there was any. -/
def properties? (handles : List Text) : List Token → Option (Option Text × Bool × List Token)
  | .anchor a :: .tag h :: rest =>
    if isKnownHandle handles h then some (some a, true, rest) else none
  | .tag h :: .anchor a :: rest =>
    if isKnownHandle handles h then some (some a, true, rest) else none
  | .anchor a :: rest => some (some a, true, rest)
  | .tag h :: rest => if isKnownHandle handles h then some (none, true, rest) else none
  | rest => some (none, false, rest)

/-- Reads a key or a value. It can be a scalar, an alias, or properties alone,
    but not a mapping. -/
def node? (handles : List Text) : List Token → Option (Node × List Token)
  | .reference name :: rest => some (⟨none, .reference name⟩, rest)
  | ts =>
    match properties? handles ts with
    | none => none
    | some (anchor, _, .scalar t :: rest) => some (⟨anchor, .text t⟩, rest)
    | some (_, _, .blockStart :: _) => none
    | some (_, _, .flowStart :: _) => none
    | some (anchor, marked, rest) => if marked then some (⟨anchor, .text []⟩, rest) else none

/-- Whether nothing is written up to the next mark of an indented mapping. -/
def endsBlockNode : List Token → Bool
  | .key :: _ | .value :: _ | .blockEnd :: _ => true
  | _ => false

/-- Whether nothing is written up to the next mark of a mapping in braces. -/
def endsFlowNode : List Token → Bool
  | .separator :: _ | .flowEnd :: _ => true
  | _ => false

/-- Reads a node that may be left out. -/
def nodeUnless? (ends : List Token → Bool) (handles : List Text) (ts : List Token) :
    Option (Node × List Token) :=
  if ends ts then some (.blank, ts) else node? handles ts

/-- Reads the value of a pair, which may be left out together with its mark. -/
def valueNode? (ends : List Token → Bool) (handles : List Text) :
    List Token → Option (Node × List Token)
  | .value :: rest => nodeUnless? ends handles rest
  | rest => some (.blank, rest)

/-- Reads the pairs of an indented mapping, at most `steps` of them. -/
def blockPairs? (handles : List Text) (steps : Nat) (ts : List Token) :
    Option (List (Node × Node) × List Token) :=
  match steps, ts with
  | _, .blockEnd :: rest => some ([], rest)
  | steps + 1, .key :: rest => do
    let (k, rest) ← nodeUnless? endsBlockNode handles rest
    let (v, rest) ← valueNode? endsBlockNode handles rest
    let (pairs, rest) ← blockPairs? handles steps rest
    return ((k, v) :: pairs, rest)
  | _, _ => none

/-- Reads one pair of a mapping in braces. Without the mark of a key the value is
    left out. -/
def flowPair? (handles : List Text) : List Token → Option ((Node × Node) × List Token)
  | .key :: rest => do
    let (k, rest) ← nodeUnless? (fun ts => endsFlowNode ts || ts.head? == some .value) handles rest
    let (v, rest) ← valueNode? endsFlowNode handles rest
    return ((k, v), rest)
  | ts => do
    let (k, rest) ← node? handles ts
    return ((k, .blank), rest)

/-- Reads the pairs of a mapping in braces, at most `steps` of them. -/
def flowPairs? (handles : List Text) (steps : Nat) (ts : List Token) :
    Option (List (Node × Node) × List Token) :=
  match steps, ts with
  | _, .flowEnd :: rest => some ([], rest)
  | 0, _ => none
  | steps + 1, ts => do
    let (pair, rest) ← flowPair? handles ts
    match rest with
    | .flowEnd :: rest => return ([pair], rest)
    | .separator :: rest =>
      let (pairs, rest) ← flowPairs? handles steps rest
      return (pair :: pairs, rest)
    | _ => none

/-- A document that holds a mapping: the anchor of the mapping and its pairs. -/
structure Document where
  anchor : Option Text
  pairs : List (Node × Node)
  deriving DecidableEq

/-- Reads the content of a document. Properties alone are a mapping without
    pairs. -/
def content? (handles : List Text) (ts : List Token) : Option (Document × List Token) :=
  match properties? handles ts with
  | none => none
  | some (anchor, _, .blockStart :: rest) =>
    (blockPairs? handles rest.length rest).map fun (pairs, rest) => (⟨anchor, pairs⟩, rest)
  | some (anchor, _, .flowStart :: rest) =>
    (flowPairs? handles rest.length rest).map fun (pairs, rest) => (⟨anchor, pairs⟩, rest)
  | some (_, _, .scalar _ :: _) => none
  | some (anchor, marked, rest) => if marked then some (⟨anchor, []⟩, rest) else none

/-- Whether only closing markers are left. -/
def onlyEnds (ts : List Token) : Bool := ts.all (· == .documentEnd)

/-- Reads the directives in front of a document: a version, 1.1 or 1.2, at most
    once, and handles, each at most once. -/
def directives? (versioned : Bool) (handles : List Text) :
    List Token → Option (Bool × List Text × List Token)
  | .version major minor :: rest =>
    if versioned || major != 1 || (minor != 1 && minor != 2) then none
    else directives? true handles rest
  | .handle h :: rest =>
    if handles.contains h then none else directives? versioned (h :: handles) rest
  | rest => some (versioned || !handles.isEmpty, handles, rest)

/-- The document that the tokens of a text make up. -/
def document? (ts : List Token) : Option Document := do
  let (directed, handles, rest) ← directives? false [] ts
  let (document, rest) ←
    match rest with
    | .documentStart :: rest =>
      if onlyEnds rest then some (⟨none, []⟩, rest) else content? handles rest
    | [] => if directed then none else some (⟨none, []⟩, [])
    | rest => if directed then none else content? handles rest
  if onlyEnds rest then return document else none

/-- The anchors of a document. -/
structure Anchors where
  /-- The names and their numbers. -/
  names : List (Text × Nat)
  /-- The numbers and the nodes that have them, the last one first. A mapping
      has no text. -/
  nodes : List (Nat × Option Text)

namespace Anchors

/-- A node under an anchor. -/
def declare (name : Text) (node : Option Text) (a : Anchors) : Anchors :=
  let number := a.names.length
  { names := (name, number) :: a.names.filter (·.1 != name)
    nodes := (number, node) :: a.nodes }

/-- A node under its anchor, if it has one. -/
def declare? (name : Option Text) (node : Option Text) (a : Anchors) : Anchors :=
  match name with
  | none => a
  | some name => a.declare name node

end Anchors

/-- What a node stands for: a text, or the node with some number. -/
inductive Referent
  | text (t : Text)
  | numbered (n : Nat)
  deriving DecidableEq

/-- Numbers the anchors of some nodes and finds the numbers of the aliases. -/
def numberNodes? (a : Anchors) : List Node → Option (Anchors × List Referent)
  | [] => some (a, [])
  | n :: rest =>
    match n.content with
    | .text t => do
      let (a, refs) ← numberNodes? (a.declare? n.anchor (some t)) rest
      return (a, .text t :: refs)
    | .reference name => do
      let number ← a.names.lookup name
      let (a, refs) ← numberNodes? a rest
      return (a, .numbered number :: refs)

/-- The text that a referent stands for. -/
def Referent.text? (a : Anchors) : Referent → Option Text
  | .text t => some t
  | .numbered n => (a.nodes.lookup n).join

/-- Texts taken two by two. -/
def pairUp : List Text → List (Text × Text)
  | k :: v :: rest => (k, v) :: pairUp rest
  | _ => []

/-- The pairs of texts of a document. -/
def resolve? (d : Document) : Option (List (Text × Text)) := do
  let anchors := Anchors.declare? d.anchor none ⟨[], []⟩
  let (anchors, refs) ← numberNodes? anchors (d.pairs.flatMap fun (k, v) => [k, v])
  let texts ← refs.mapM (Referent.text? anchors)
  return pairUp texts

/-- One more pair in a mapping: a known key takes the new value in its place. -/
def update (m : List (Text × Text)) (k v : Text) : List (Text × Text) :=
  match m with
  | [] => [(k, v)]
  | (k', v') :: rest => if k' = k then (k, v) :: rest else (k', v') :: update rest k v

theorem update_keys (m : List (Text × Text)) (k v : Text) :
    (update m k v).map Prod.fst
      = if k ∈ m.map Prod.fst then m.map Prod.fst else m.map Prod.fst ++ [k] := by
  induction m with
  | nil => rfl
  | cons p m ih =>
      obtain ⟨k', v'⟩ := p
      by_cases h : k' = k
      · subst h
        simp only [update, if_true, List.map_cons, List.mem_cons, true_or]
      · simp only [update, if_neg h, List.map_cons, ih, List.mem_cons, Ne.symm h, false_or]
        split <;> rfl

/-- The pairs that a text holds, as they are written. -/
def pairs? (t : Text) : Option (List (Text × Text)) :=
  ((tokens? t).bind document?).bind resolve?

/-- A mapping out of pairs, taken one after the other. -/
def ofPairs (pairs : List (Text × Text)) : List (Text × Text) :=
  pairs.foldl (fun m p => update m p.1 p.2) []

/-- The mapping that a text holds, in the order of its keys. -/
def mapping? (t : Text) : Option (List (Text × Text)) := (pairs? t).map ofPairs

end Yaml

end HelpWiring
