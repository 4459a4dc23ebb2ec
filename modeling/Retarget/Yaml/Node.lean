import Retarget.Yaml.Token

/-!
# YAML documents

A document as a tree. An alias stands for the node that its anchor names, except inside that node, where it is a
cycle.

Main definition: `Node.read?`, the one document of a text. A text with several documents is refused, and a text
without any has none.
-/

namespace Retarget.Yaml

/-- A node of a document. -/
inductive Node
  | scalar (tag : Option String) (style : Style) (text : String)
  | sequence (tag : Option String) (items : List Node)
  | mapping (tag : Option String) (pairs : List (Node × Node))
  /-- An alias inside the node that it names. -/
  | cycle
deriving Repr, Inhabited

namespace Node

/-- What anchors stand for, the last one first, and the tag handles in force. An anchor whose node is still being
read stands for nothing yet. -/
structure Scope where
  anchors : List (String × Option Node) := []
  handles : List (String × String)

/-- An empty plain scalar. -/
def void : Node := .scalar none .plain ""

/-- The full name of a tag, if its handle is known. -/
def resolveTag (sc : Scope) (handle suffix : String) : Option String :=
  if handle.isEmpty then some suffix else (sc.handles.lookup handle).map (· ++ suffix)

/-- Read the anchor and the tag before a node, in either order. -/
def readProperties (sc : Scope) : List Token → Option (Option String × Option String × List Token)
  | .anchor a :: .tag h t :: rest => (resolveTag sc h t).map fun tag => (some a, some tag, rest)
  | .anchor a :: rest => some (some a, none, rest)
  | .tag h t :: .anchor a :: rest => (resolveTag sc h t).map fun tag => (some a, some tag, rest)
  | .tag h t :: rest => (resolveTag sc h t).map fun tag => (none, some tag, rest)
  | rest => some (none, none, rest)

/-- Enter an anchor whose node is about to be read. -/
def Scope.enter (sc : Scope) (anchor : Option String) (node : Option Node) : Scope :=
  match anchor with
  | none => sc
  | some a => { sc with anchors := (a, node) :: sc.anchors }

mutual

/-- Read a node. `block` allows blocks, and `indentless` a sequence whose entries stand at the column of their
parent. -/
def readNode : Nat → (block indentless : Bool) → Scope → List Token → Option (Node × Scope × List Token)
  | 0, _, _, _, _ => none
  | _ + 1, _, _, sc, .alias name :: rest =>
    (sc.anchors.lookup name).map fun node => (node.getD .cycle, sc, rest)
  | fuel + 1, block, indentless, sc, ts => do
    let (anchor, tag, ts) ← readProperties sc ts
    let finish := fun (r : Node × Scope × List Token) => (r.1, r.2.1.enter anchor (some r.1), r.2.2)
    let inner := sc.enter anchor none
    match ts with
    | .scalar text style :: rest => some (finish (.scalar tag style text, sc, rest))
    | .sequenceOpen :: rest => do
      let (items, sc, rest) ← readFlowItems fuel true inner rest
      some (finish (.sequence tag items, sc, rest))
    | .mappingOpen :: rest => do
      let (pairs, sc, rest) ← readFlowPairs fuel true inner rest
      some (finish (.mapping tag pairs, sc, rest))
    | .entry :: _ =>
      if indentless then do
        let (items, sc, rest) ← readIndentless fuel inner ts
        some (finish (.sequence tag items, sc, rest))
      else if anchor.isSome || tag.isSome then some (finish (.scalar tag .plain "", sc, ts))
      else none
    | .blockSequence :: rest =>
      if block then do
        let (items, sc, rest) ← readItems fuel inner rest
        some (finish (.sequence tag items, sc, rest))
      else if anchor.isSome || tag.isSome then some (finish (.scalar tag .plain "", sc, ts))
      else none
    | .blockMapping :: rest =>
      if block then do
        let (pairs, sc, rest) ← readPairs fuel inner rest
        some (finish (.mapping tag pairs, sc, rest))
      else if anchor.isSome || tag.isSome then some (finish (.scalar tag .plain "", sc, ts))
      else none
    | _ => if anchor.isSome || tag.isSome then some (finish (.scalar tag .plain "", sc, ts)) else none

/-- Read the entries of a block sequence. -/
def readItems : Nat → Scope → List Token → Option (List Node × Scope × List Token)
  | 0, _, _ => none
  | _ + 1, sc, .blockEnd :: rest => some ([], sc, rest)
  | fuel + 1, sc, .entry :: rest => do
    let (x, sc, rest) ← match rest with
      | .entry :: _ => some (void, sc, rest)
      | .blockEnd :: _ => some (void, sc, rest)
      | _ => readNode fuel true false sc rest
    let (xs, sc, rest) ← readItems fuel sc rest
    some (x :: xs, sc, rest)
  | _ + 1, _, _ => none

/-- Read the entries of a sequence that stands at the column of its parent. -/
def readIndentless : Nat → Scope → List Token → Option (List Node × Scope × List Token)
  | 0, _, _ => none
  | fuel + 1, sc, .entry :: rest => do
    let (x, sc, rest) ← match rest with
      | .entry :: _ => some (void, sc, rest)
      | .key :: _ => some (void, sc, rest)
      | .value :: _ => some (void, sc, rest)
      | .blockEnd :: _ => some (void, sc, rest)
      | _ => readNode fuel true false sc rest
    let (xs, sc, rest) ← readIndentless fuel sc rest
    some (x :: xs, sc, rest)
  | _ + 1, sc, rest => some ([], sc, rest)

/-- Read a key or a value of a block mapping; nothing there stands for the empty scalar. -/
def readBlockPart : Nat → Scope → List Token → Option (Node × Scope × List Token)
  | 0, _, _ => none
  | _ + 1, sc, .key :: rest => some (void, sc, .key :: rest)
  | _ + 1, sc, .value :: rest => some (void, sc, .value :: rest)
  | _ + 1, sc, .blockEnd :: rest => some (void, sc, .blockEnd :: rest)
  | fuel + 1, sc, rest => readNode fuel true true sc rest

/-- Read the pairs of a block mapping. Each starts with its key: a value alone is refused. -/
def readPairs : Nat → Scope → List Token → Option (List (Node × Node) × Scope × List Token)
  | 0, _, _ => none
  | _ + 1, sc, .blockEnd :: rest => some ([], sc, rest)
  | fuel + 1, sc, .key :: rest => do
    let (k, sc, rest) ← readBlockPart fuel sc rest
    let (v, sc, rest) ← match rest with
      | .value :: rest => readBlockPart fuel sc rest
      | _ => some (void, sc, rest)
    let (ps, sc, rest) ← readPairs fuel sc rest
    some ((k, v) :: ps, sc, rest)
  | _ + 1, _, _ => none

/-- Read the items of a sequence in brackets. An item may be a single pair. -/
def readFlowItems : Nat → Bool → Scope → List Token → Option (List Node × Scope × List Token)
  | 0, _, _, _ => none
  | _ + 1, _, sc, .sequenceClose :: rest => some ([], sc, rest)
  | fuel + 1, first, sc, ts => do
    let ts ← if first then some ts else
      match ts with
      | .comma :: rest => some rest
      | _ => none
    match ts with
    | .sequenceClose :: rest => some ([], sc, rest)
    | .key :: rest => do
      let (k, sc, rest) ← match rest with
        | .value :: rest => some (void, sc, rest)
        | .comma :: rest => some (void, sc, rest)
        | .sequenceClose :: rest => some (void, sc, rest)
        | _ => readNode fuel false false sc rest
      let (v, sc, rest) ← match rest with
        | .value :: .comma :: rest => some (void, sc, .comma :: rest)
        | .value :: .sequenceClose :: rest => some (void, sc, .sequenceClose :: rest)
        | .value :: rest => readNode fuel false false sc rest
        | _ => some (void, sc, rest)
      let (xs, sc, rest) ← readFlowItems fuel false sc rest
      some (.mapping none [(k, v)] :: xs, sc, rest)
    | _ => do
      let (x, sc, rest) ← readNode fuel false false sc ts
      let (xs, sc, rest) ← readFlowItems fuel false sc rest
      some (x :: xs, sc, rest)

/-- Read the pairs of a mapping in braces. A key without a value has the empty scalar. -/
def readFlowPairs : Nat → Bool → Scope → List Token → Option (List (Node × Node) × Scope × List Token)
  | 0, _, _, _ => none
  | _ + 1, _, sc, .mappingClose :: rest => some ([], sc, rest)
  | fuel + 1, first, sc, ts => do
    let ts ← if first then some ts else
      match ts with
      | .comma :: rest => some rest
      | _ => none
    match ts with
    | .mappingClose :: rest => some ([], sc, rest)
    | .key :: rest => do
      let (k, sc, rest) ← match rest with
        | .value :: _ => some (void, sc, rest)
        | .comma :: _ => some (void, sc, rest)
        | .mappingClose :: _ => some (void, sc, rest)
        | _ => readNode fuel false false sc rest
      let (v, sc, rest) ← match rest with
        | .value :: .comma :: rest => some (void, sc, .comma :: rest)
        | .value :: .mappingClose :: rest => some (void, sc, .mappingClose :: rest)
        | .value :: rest => readNode fuel false false sc rest
        | _ => some (void, sc, rest)
      let (ps, sc, rest) ← readFlowPairs fuel false sc rest
      some ((k, v) :: ps, sc, rest)
    | _ => do
      let (k, sc, rest) ← readNode fuel false false sc ts
      let (ps, sc, rest) ← readFlowPairs fuel false sc rest
      some ((k, void) :: ps, sc, rest)

end

/-! ## Documents -/

/-- The tag handles that need no directive. -/
def defaultHandles : List (String × String) := [("!", "!"), ("!!", "tag:yaml.org,2002:")]

/-- Read the directives before a document: at most one version, which must be 1.1 or 1.2, and each handle once. -/
def readDirectives : Bool → List (String × String) → List Token → Option (List (String × String) × List Token)
  | seen, hs, .version major minor :: rest =>
    if seen || major != 1 || !(minor == 1 || minor == 2) then none else readDirectives true hs rest
  | seen, hs, .tagHandle h p :: rest => if (hs.lookup h).isSome then none else readDirectives seen ((h, p) :: hs) rest
  | _, hs, rest => some (hs, rest)

/-- Read the root of a document. -/
def readRoot (handles : List (String × String)) (ts : List Token) : Option (Node × List Token) :=
  (readNode (2 * ts.length + 2) true false { handles := handles ++ defaultHandles } ts).map
    fun (node, _, rest) => (node, rest)

/-- Read the root of a document after its start mark; nothing there stands for the empty scalar. -/
def readContent (handles : List (String × String)) : List Token → Option (Node × List Token)
  | [] => some (void, [])
  | .documentStart :: rest => some (void, .documentStart :: rest)
  | .documentEnd :: rest => some (void, .documentEnd :: rest)
  | .version major minor :: rest => some (void, .version major minor :: rest)
  | .tagHandle h p :: rest => some (void, .tagHandle h p :: rest)
  | rest => readRoot handles rest

/-- The document of some tokens. The outer option says whether they are well-formed and hold one document at most. -/
def ofTokens? (ts : List Token) : Option (Option Node) :=
  let atEnd := fun (rest : List Token) => (rest.dropWhile (· == .documentEnd)).isEmpty
  let isDirective := match ts with
    | .version _ _ :: _ => true
    | .tagHandle _ _ :: _ => true
    | .documentStart :: _ => true
    | _ => false
  if ts.isEmpty then some none
  else if isDirective then do
    let (handles, ts) ← readDirectives false [] ts
    match ts with
    | .documentStart :: ts =>
      let (node, rest) ← readContent handles ts
      if atEnd rest then some (some node) else none
    | _ => none
  else do
    let (node, rest) ← readRoot [] ts
    if atEnd rest then some (some node) else none

/-- Read the document of a text. -/
def read? (text : String) : Option (Option Node) := (tokens? text).bind ofTokens?

end Node

end Retarget.Yaml
