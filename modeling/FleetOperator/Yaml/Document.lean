import FleetOperator.Codec.Source
import FleetOperator.Yaml.Token

/-!
# Documents

The documents of a stream of tokens. Nodes are first read with their aliases in place; then every
alias is replaced by the node that its anchor stands for. An anchor is known by the number of
anchor names before it, so an anchor that is set again takes a number that a later anchor may share,
and the latest node with the number stands for both.
-/

namespace FleetOperator.Yaml

/-- A node as it is written, with aliases by the number of their anchor. -/
inductive WrittenNode where
  | alias (anchor : Nat)
  | scalar (value : Scalar)
  | sequence (tag : Option String) (items : List WrittenNode)
  | mapping (tag : Option String) (entries : List (WrittenNode × WrittenNode))
deriving Repr

instance : Inhabited WrittenNode := ⟨.alias 0⟩

/-- A node with an anchor: the number of the anchor, the number of nodes that were started before
it, and the node. -/
structure Anchored where
  anchor : Nat
  order : Nat
  node : WrittenNode

/-- The state of the reader of one document: the tokens left, the prefixes of tag handles, the
numbers of the anchor names, the anchored nodes, and the number of nodes and collection ends met. -/
structure Reader where
  tokens : List Token
  prefixes : List (String × String)
  names : List (String × Nat) := []
  anchored : List Anchored := []
  events : Nat := 0

namespace Reader

/-- The next token. -/
def head? (r : Reader) : Option Token := r.tokens.head?

/-- The reader after the next token. -/
def skip (r : Reader) : Reader := { r with tokens := r.tokens.tail }

/-- The reader after one more event of the document. -/
def count (r : Reader) : Reader := { r with events := r.events + 1 }

/-- A plain scalar without text. -/
def emptyScalar : WrittenNode := .scalar ⟨.plain, none, ""⟩

/-- The tag of a handle and a suffix, when the handle is known. -/
def resolveTag? (r : Reader) (handle suffix : String) : Option String :=
  if handle == "" then some suffix
  else (r.prefixes.lookup handle).map (· ++ suffix)

/-- The anchor and the tag in front of a node, in either order, and the reader after them. -/
def properties? (r : Reader) : Option (Option String × Option String × Reader) :=
  match r.tokens with
  | .anchor name :: .tag handle suffix :: rest =>
    (r.resolveTag? handle suffix).map fun tag ↦ (some name, some tag, { r with tokens := rest })
  | .anchor name :: rest => some (some name, none, { r with tokens := rest })
  | .tag handle suffix :: .anchor name :: rest =>
    (r.resolveTag? handle suffix).map fun tag ↦ (some name, some tag, { r with tokens := rest })
  | .tag handle suffix :: rest =>
    (r.resolveTag? handle suffix).map fun tag ↦ (none, some tag, { r with tokens := rest })
  | _ => some (none, none, r)

/-- The number that an anchor gets: how many names are known. Nothing without an anchor. -/
def openAnchor (r : Reader) (name : Option String) : Option Nat × Reader :=
  match name with
  | none => (none, r)
  | some name =>
    let number := r.names.length
    let others := r.names.filter (·.1 != name)
    (some number, { r with names := (name, number) :: others })

/-- The reader that knows the node of an anchor. -/
def closeAnchor (r : Reader) (number : Option Nat) (order : Nat) (node : WrittenNode) : Reader :=
  match number with
  | none => r
  | some anchor => { r with anchored := ⟨anchor, order, node⟩ :: r.anchored }

/-- The tag of a scalar: a lone exclamation mark is none. -/
def scalarTag (tag : Option String) : Option String := tag.filter (· != "!")

mutual

/-- The node at a place, in the block context or not, where a sequence may follow a key without
being indented. -/
def node : Nat → Bool → Bool → Reader → Option (WrittenNode × Reader)
  | 0, _, _, _ => none
  | fuel + 1, isBlock, mayBeBare, r =>
    match r.tokens with
    | .alias name :: rest =>
      (r.names.lookup name).map fun number ↦ (.alias number, { r with tokens := rest }.count)
    | _ =>
      match r.properties? with
      | none => none
      | some (name, tag, r) =>
        let order := r.events
        let (number, r) := r.openAnchor name
        let isCollection : Bool := match r.head? with
          | some .flowSequenceStart => true
          | some .flowMappingStart => true
          | some .blockSequenceStart => isBlock
          | some .blockMappingStart => isBlock
          | some .blockEntry => mayBeBare
          | _ => false
        let result? : Option (WrittenNode × Reader) := match r.tokens with
          | .scalar style text :: rest =>
            some (.scalar ⟨style, scalarTag tag, text⟩, { r with tokens := rest }.count)
          | .flowSequenceStart :: rest =>
            (flowItems fuel true [] { r with tokens := rest }.count).map
              fun (items, r) ↦ (.sequence tag items, r)
          | .flowMappingStart :: rest =>
            (flowEntries fuel true [] { r with tokens := rest }.count).map
              fun (entries, r) ↦ (.mapping tag entries, r)
          | first :: rest =>
            if !isCollection then
              if name.isSome || tag.isSome then
                some (.scalar ⟨.plain, scalarTag tag, ""⟩, r.count)
              else none
            else if first == .blockSequenceStart then
              (blockItems fuel [] { r with tokens := rest }.count).map
                fun (items, r) ↦ (.sequence tag items, r)
            else if first == .blockMappingStart then
              (blockEntries fuel [] { r with tokens := rest }.count).map
                fun (entries, r) ↦ (.mapping tag entries, r)
            else
              (bareItems fuel [] r.count).map fun (items, r) ↦ (.sequence tag items, r)
          | [] =>
            if name.isSome || tag.isSome then
              some (.scalar ⟨.plain, scalarTag tag, ""⟩, r.count)
            else none
        result?.map fun (node, r) ↦ (node, r.closeAnchor number order node)

/-- The items of a block sequence up to its end, most recent first. -/
def blockItems : Nat → List WrittenNode → Reader → Option (List WrittenNode × Reader)
  | 0, _, _ => none
  | fuel + 1, found, r =>
    match r.tokens with
    | .blockEntry :: rest =>
      let r := { r with tokens := rest }
      match r.head? with
      | some .blockEntry => blockItems fuel (emptyScalar :: found) r.count
      | some .blockEnd => blockItems fuel (emptyScalar :: found) r.count
      | _ =>
        match node fuel true false r with
        | some (item, r) => blockItems fuel (item :: found) r
        | none => none
    | .blockEnd :: rest => some (found.reverse, { r with tokens := rest }.count)
    | _ => none

/-- The items of a sequence that is not indented, most recent first. -/
def bareItems : Nat → List WrittenNode → Reader → Option (List WrittenNode × Reader)
  | 0, _, _ => none
  | fuel + 1, found, r =>
    match r.tokens with
    | .blockEntry :: rest =>
      let r := { r with tokens := rest }
      match r.head? with
      | some .blockEntry => bareItems fuel (emptyScalar :: found) r.count
      | some .key => bareItems fuel (emptyScalar :: found) r.count
      | some .value => bareItems fuel (emptyScalar :: found) r.count
      | some .blockEnd => bareItems fuel (emptyScalar :: found) r.count
      | _ =>
        match node fuel true false r with
        | some (item, r) => bareItems fuel (item :: found) r
        | none => none
    | _ => some (found.reverse, r.count)

/-- The entries of a block mapping up to its end, most recent first. -/
def blockEntries : Nat → List (WrittenNode × WrittenNode) → Reader →
    Option (List (WrittenNode × WrittenNode) × Reader)
  | 0, _, _ => none
  | fuel + 1, found, r =>
    match r.tokens with
    | .key :: rest =>
      match blockPart fuel { r with tokens := rest } with
      | none => none
      | some (key, r) =>
        match r.tokens with
        | .value :: rest =>
          match blockPart fuel { r with tokens := rest } with
          | none => none
          | some (value, r) => blockEntries fuel ((key, value) :: found) r
        | _ => blockEntries fuel ((key, emptyScalar) :: found) r.count
    | .blockEnd :: rest => some (found.reverse, { r with tokens := rest }.count)
    | .value :: _ => none
    | _ => none

/-- A key or a value of a block mapping, empty where the next mark follows at once. -/
def blockPart : Nat → Reader → Option (WrittenNode × Reader)
  | 0, _ => none
  | fuel + 1, r =>
    match r.head? with
    | some .key => some (emptyScalar, r.count)
    | some .value => some (emptyScalar, r.count)
    | some .blockEnd => some (emptyScalar, r.count)
    | _ => node fuel true true r

/-- The items of a flow sequence up to its end, most recent first. A key in it makes a mapping of
one entry. -/
def flowItems : Nat → Bool → List WrittenNode → Reader → Option (List WrittenNode × Reader)
  | 0, _, _, _ => none
  | fuel + 1, isFirst, found, r =>
    match r.tokens with
    | .flowSequenceEnd :: rest => some (found.reverse, { r with tokens := rest }.count)
    | first :: rest =>
      if !isFirst && first != .flowEntry then none
      else
        let r := if isFirst then r else { r with tokens := rest }
        match r.tokens with
        | .flowSequenceEnd :: rest => some (found.reverse, { r with tokens := rest }.count)
        | .key :: rest =>
          match flowPair fuel { r with tokens := rest }.count with
          | some (item, r) => flowItems fuel false (item :: found) r
          | none => none
        | _ =>
          match node fuel false false r with
          | some (item, r) => flowItems fuel false (item :: found) r
          | none => none
    | [] => none

/-- The mapping of one entry in a flow sequence, after the mark of its key. -/
def flowPair : Nat → Reader → Option (WrittenNode × Reader)
  | 0, _ => none
  | fuel + 1, r =>
    let key? := match r.head? with
      | some .value => some (emptyScalar, r.skip.count)
      | some .flowEntry => some (emptyScalar, r.skip.count)
      | some .flowSequenceEnd => some (emptyScalar, r.skip.count)
      | _ => node fuel false false r
    match key? with
    | none => none
    | some (key, r) =>
      let value? := match r.tokens with
        | .value :: rest =>
          let r := { r with tokens := rest }
          match r.head? with
          | some .flowEntry => some (emptyScalar, r.count)
          | some .flowSequenceEnd => some (emptyScalar, r.count)
          | _ => node fuel false false r
        | _ => some (emptyScalar, r.count)
      value?.map fun (value, r) ↦ (.mapping none [(key, value)], r.count)

/-- The entries of a flow mapping up to its end, most recent first. -/
def flowEntries : Nat → Bool → List (WrittenNode × WrittenNode) → Reader →
    Option (List (WrittenNode × WrittenNode) × Reader)
  | 0, _, _, _ => none
  | fuel + 1, isFirst, found, r =>
    match r.tokens with
    | .flowMappingEnd :: rest => some (found.reverse, { r with tokens := rest }.count)
    | first :: rest =>
      if !isFirst && first != .flowEntry then none
      else
        let r := if isFirst then r else { r with tokens := rest }
        match r.tokens with
        | .flowMappingEnd :: rest => some (found.reverse, { r with tokens := rest }.count)
        | .key :: rest =>
          let r := { r with tokens := rest }
          let key? := match r.head? with
            | some .value => some (emptyScalar, r.count)
            | some .flowEntry => some (emptyScalar, r.count)
            | some .flowMappingEnd => some (emptyScalar, r.count)
            | _ => node fuel false false r
          match key? with
          | none => none
          | some (key, r) =>
            let value? := match r.tokens with
              | .value :: rest =>
                let r := { r with tokens := rest }
                match r.head? with
                | some .flowEntry => some (emptyScalar, r.count)
                | some .flowMappingEnd => some (emptyScalar, r.count)
                | _ => node fuel false false r
              | _ => some (emptyScalar, r.count)
            match value? with
            | none => none
            | some (value, r) => flowEntries fuel false ((key, value) :: found) r
        | _ =>
          match node fuel false false r with
          | some (key, r) => flowEntries fuel false ((key, emptyScalar) :: found) r.count
          | none => none
    | [] => none

end

/-- The node with the number of an anchor that was started last. -/
def find? (number : Nat) (anchored : List Anchored) : Option WrittenNode :=
  let best := anchored.foldl (fun best a ↦
    if a.anchor != number then best
    else
      match best with
      | some (b : Anchored) => if b.order < a.order then some a else best
      | none => some a) none
  best.map (·.node)

/-- A node with every alias replaced, where collections are nested at most to a depth. The number
of aliases that may still be replaced is threaded through. -/
def expand (anchored : List Anchored) : Nat → WrittenNode → StateM Nat Node
  | depth, written => fun allowance ↦
    let (target, allowance, isSpent) := match written with
      | .alias number =>
        ((find? number anchored).getD (.alias number), allowance - 1, allowance == 0)
      | other => (other, allowance, false)
    if isSpent then (.unreadable, 0)
    else
      match depth, target with
      | _, .scalar s => (.scalar s, allowance)
      | depth + 1, .sequence tag items =>
        let (items, allowance) := (items.mapM (expand anchored depth)).run allowance
        (.sequence tag items, allowance)
      | depth + 1, .mapping tag entries =>
        let (entries, allowance) := (entries.mapM fun (entry : WrittenNode × WrittenNode) ↦ do
          let key ← expand anchored depth entry.1
          let value ← expand anchored depth entry.2
          return (key, value)).run allowance
        (.mapping tag entries, allowance)
      | _, _ => (.unreadable, allowance)

/-- The depth to which collections may be nested. -/
def depthLimit : Nat := 128

/-- How many aliases may be replaced for each event of a document. -/
def aliasesPerEvent : Nat := 100

/-- The prefixes of the tag handles that every document knows. -/
def standardPrefixes : List (String × String) := [("!", "!"), ("!!", coreTag "")]

/-- The directives in front of a document, and the tokens after them. A version must be one that is
known, and no directive may be repeated. -/
def directives? : Nat → Bool → List (String × String) → List Token →
    Option (List (String × String) × List Token)
  | 0, _, _, _ => none
  | fuel + 1, hasVersion, found, tokens =>
    match tokens with
    | .version major minor :: rest =>
      if hasVersion || major != 1 || (minor != 1 && minor != 2) then none
      else directives? fuel true found rest
    | .tagPrefix handle tag :: rest =>
      if (found.lookup handle).isSome then none
      else directives? fuel hasVersion ((handle, tag) :: found) rest
    | rest => some (found, rest)

/-- The documents of tokens. The first one may start without a mark. -/
def documents : Nat → Bool → List Token → Option (List Node)
  | 0, _, _ => none
  | fuel + 1, isFirst, tokens =>
    let tokens := if isFirst then tokens else tokens.dropWhile (· == .documentEnd)
    let isMarked := match tokens.head? with
      | some (.version _ _) => true
      | some (.tagPrefix _ _) => true
      | some .documentStart => true
      | _ => !isFirst
    if tokens.isEmpty then some []
    else
      let start? := if isMarked then
          match directives? (tokens.length + 1) false [] tokens with
          | some (found, .documentStart :: rest) => some (found, rest)
          | _ => none
        else some ([], tokens)
      match start? with
      | none => none
      | some (found, rest) =>
        let r : Reader := { tokens := rest, prefixes := found ++ standardPrefixes }
        let isEmpty := isMarked && match rest.head? with
          | none => true
          | some (.version _ _) => true
          | some (.tagPrefix _ _) => true
          | some .documentStart => true
          | some .documentEnd => true
          | _ => false
        let read? :=
          if isEmpty then some (emptyScalar, r.count)
          else r.node (2 * rest.length + 2) true false
        match read? with
        | none => none
        | some (written, r) =>
          let (node, _) := expand r.anchored depthLimit written (aliasesPerEvent * r.events)
          let rest := match r.tokens with
            | .documentEnd :: rest => rest
            | rest => rest
          (documents fuel false rest).map (node :: ·)

end Reader

/-- The documents of a text. -/
def documents? (text : String) : Option (List Node) :=
  (tokens? text).bind fun tokens ↦ Reader.documents (tokens.size + 2) true tokens.toList

/-- The document of a text that holds one document or none. -/
def document? (text : String) : Option Node :=
  match documents? text with
  | some [] => some .absent
  | some [node] => some node
  | _ => none

/-- The JSON value that a text writes. -/
def readJson? (text : String) : Option Json := (document? text).bind Node.json?

end FleetOperator.Yaml
