import FleetOperator.Manifest.Object
import Mathlib.Data.List.Forall2
import Mathlib.Data.List.ReduceOption

/-!
# Reading the objects of a manifest

Which documents of a manifest can be read and placed, and which object each of them stands for. Read
`discover_of_refused` and `discover_of_sound` first: one document that is refused fails the whole
manifest, and otherwise the objects are those of the documents in the order of the text.
-/

namespace FleetOperator.Manifest

/-- Why the object of a body has no place: a required field is missing or empty, or its type is not
served. -/
inductive Unplaced (mapper : Mapper) (body : Json) : Prop
  | noVersion (h : field? (body.at? "apiVersion") = none)
  | noKind (h : field? (body.at? "kind") = none)
  | noName (h : field? ((body.at? "metadata").at? "name") = none)
  | noType {apiVersion kind : String} (hversion : field? (body.at? "apiVersion") = some apiVersion)
      (hkind : field? (body.at? "kind") = some kind)
      (h : mapper ⟨(splitVersion apiVersion).1, (splitVersion apiVersion).2, kind⟩ = none)

/-- The object of a body at its place: the type is the one that is served for the version and the
kind, and its route decides whether the namespace is part of the place. -/
structure Places (mapper : Mapper) (scopes : ScopeTable) (body : Json) (object : Object) :
    Prop where
  type : ∃ apiVersion kind, field? (body.at? "apiVersion") = some apiVersion ∧
    field? (body.at? "kind") = some kind ∧
    mapper ⟨(splitVersion apiVersion).1, (splitVersion apiVersion).2, kind⟩ =
      some object.location.resource
  name : field? ((body.at? "metadata").at? "name") = some object.location.name
  route : object.route = scopes.route object.location.resource.plural
  «namespace» : object.location.namespace =
    if object.route = .namespaced then field? ((body.at? "metadata").at? "namespace") else none
  body : object.body = body

/-- Why a document is refused: it cannot be decoded, or to something that is no object, or to an
object without a place. -/
inductive Refused (mapper : Mapper) (document : String) : Prop
  | undecoded (h : Yaml.readJson? document = none)
  | noObject {value : Json} (h : Yaml.readJson? document = some value) (hnull : value ≠ .null)
      (hfields : ∀ fields, value ≠ .object fields)
  | unplaced {fields : List (String × Json)}
      (h : Yaml.readJson? document = some (.object fields))
      (hplace : Unplaced mapper (.object fields))

/-- What a document stands for: nothing, or an object at its place. -/
inductive Yields (mapper : Mapper) (scopes : ScopeTable) (document : String) : Option Object → Prop
  | nothing (h : Yaml.readJson? document = some .null) : Yields mapper scopes document none
  | object {fields : List (String × Json)} {object : Object}
      (h : Yaml.readJson? document = some (.object fields))
      (hplace : Places mapper scopes (.object fields) object) :
      Yields mapper scopes document (some object)

variable {mapper : Mapper} {documents : List String}

/-- A body is placed, unless a required field or its type is missing. -/
theorem locate_cases (mapper : Mapper) (scopes : ScopeTable) (body : Json) :
    (Unplaced mapper body ∧ ∃ error, locate mapper scopes body = .error error) ∨
      (¬ Unplaced mapper body ∧
        ∃ object, locate mapper scopes body = .ok object ∧ Places mapper scopes body object) := by
  unfold locate
  cases hversion : field? (body.at? "apiVersion") with
  | none => exact .inl ⟨.noVersion hversion, ⟨_, rfl⟩⟩
  | some apiVersion =>
    cases hkind : field? (body.at? "kind") with
    | none => exact .inl ⟨.noKind hkind, ⟨_, rfl⟩⟩
    | some kind =>
      cases hname : field? ((body.at? "metadata").at? "name") with
      | none =>
          simp only [hname]
          exact .inl ⟨.noName hname, ⟨_, rfl⟩⟩
      | some name =>
        cases htype : mapper ⟨(splitVersion apiVersion).1, (splitVersion apiVersion).2, kind⟩ with
        | none =>
            simp only [hname, htype]
            exact .inl ⟨.noType hversion hkind htype, ⟨_, rfl⟩⟩
        | some resource =>
            simp only [hname, htype]
            refine .inr ⟨?_, _, rfl,
              { type := ⟨apiVersion, kind, hversion, hkind, htype⟩, name := hname, route := rfl
                «namespace» := rfl, body := rfl }⟩
            rintro (h | h | h | ⟨hother, hkinds, h⟩)
            · simp [hversion] at h
            · simp [hkind] at h
            · simp [hname] at h
            · obtain rfl : apiVersion = _ := Option.some.inj (hversion.symm.trans hother)
              obtain rfl : kind = _ := Option.some.inj (hkind.symm.trans hkinds)
              simp [htype] at h

/-- A document is refused, and with it all documents, or it adds what it stands for to the objects
of the documents after it. -/
theorem discoverIn_cons (mapper : Mapper) (scopes : ScopeTable) (document : String) :
    (Refused mapper document ∧
        ∀ rest, ∃ error, discoverIn mapper scopes (document :: rest) = .error error) ∨
      (¬ Refused mapper document ∧ ∃ found, Yields mapper scopes document found ∧
        ∀ rest, discoverIn mapper scopes (document :: rest) =
          (discoverIn mapper scopes rest).map (found.toList ++ ·)) := by
  cases hdocument : Yaml.readJson? document with
  | none =>
      refine .inl ⟨.undecoded hdocument, fun rest ↦ ?_⟩
      rw [discoverIn, readDocument, hdocument]
      exact ⟨_, rfl⟩
  | some value =>
    cases value with
    | null =>
        refine .inr ⟨?_, none, .nothing hdocument, fun rest ↦ ?_⟩
        · rintro (h | ⟨h, hnull, -⟩ | ⟨h, -⟩) <;> simp [hdocument] at h
          exact hnull h.symm
        · rw [discoverIn, readDocument, hdocument]
          cases discoverIn mapper scopes rest <;> rfl
    | object fields =>
        rcases locate_cases mapper scopes (.object fields) with
          ⟨hunplaced, error, herror⟩ | ⟨hplaced, object, hobject, hplace⟩
        · refine .inl ⟨.unplaced hdocument hunplaced, fun rest ↦ ⟨error, ?_⟩⟩
          simp only [discoverIn, readDocument, hdocument, herror]
        · refine .inr ⟨?_, some object, .object hdocument hplace, fun rest ↦ ?_⟩
          · rintro (h | ⟨h, -, hfields⟩ | ⟨h, hunplaced⟩) <;> simp [hdocument] at h
            · exact hfields fields h.symm
            · exact hplaced (h ▸ hunplaced)
          · simp only [discoverIn, readDocument, hdocument, hobject]
            rfl
    | bool _ | number _ | text _ | array _ =>
        refine .inl ⟨.noObject hdocument (by simp) (by simp), fun rest ↦ ?_⟩
        rw [discoverIn, readDocument, hdocument]
        exact ⟨_, rfl⟩

/-- One refused document fails the reading of all. -/
theorem discoverIn_of_refused (scopes : ScopeTable)
    (h : ∃ document ∈ documents, Refused mapper document) :
    ∃ error, discoverIn mapper scopes documents = .error error := by
  induction documents with
  | nil => simp at h
  | cons document rest ih =>
      rcases discoverIn_cons mapper scopes document with
        ⟨-, hfails⟩ | ⟨hsound, found, -, hdiscover⟩
      · exact hfails rest
      · obtain ⟨refused, hmem, hrefused⟩ := h
        have hrest : refused ∈ rest := by
          rcases List.mem_cons.1 hmem with rfl | hmem
          · exact absurd hrefused hsound
          · exact hmem
        obtain ⟨error, herror⟩ := ih ⟨refused, hrest, hrefused⟩
        exact ⟨error, by rw [hdiscover, herror]; rfl⟩

/-- Where no document is refused, the objects are those of the documents in their order. -/
theorem discoverIn_of_sound (scopes : ScopeTable)
    (h : ∀ document ∈ documents, ¬ Refused mapper document) :
    ∃ found, List.Forall₂ (Yields mapper scopes) documents found ∧
      discoverIn mapper scopes documents = .ok found.reduceOption := by
  induction documents with
  | nil => exact ⟨[], .nil, rfl⟩
  | cons document rest ih =>
      rcases discoverIn_cons mapper scopes document with
        ⟨hrefused, -⟩ | ⟨-, first, hfirst, hdiscover⟩
      · exact absurd hrefused (h document List.mem_cons_self)
      · obtain ⟨found, hfound, hrest⟩ :=
          ih fun other hother ↦ h other (List.mem_cons_of_mem _ hother)
        refine ⟨first :: found, .cons hfirst hfound, ?_⟩
        rw [hdiscover, hrest]
        cases first <;> rfl

variable {manifest : String}

/-- A manifest with a refused document has no objects. -/
theorem discover_of_refused (scopes : ScopeTable)
    (h : ∃ document ∈ Manifest.documents manifest, Refused mapper document) :
    ∃ error, discover mapper scopes manifest = .error error :=
  discoverIn_of_refused scopes h

/-- A manifest without a refused document has the objects of its documents. -/
theorem discover_of_sound (scopes : ScopeTable)
    (h : ¬ ∃ document ∈ Manifest.documents manifest, Refused mapper document) :
    ∃ found, List.Forall₂ (Yields mapper scopes) (Manifest.documents manifest) found ∧
      discover mapper scopes manifest = .ok found.reduceOption :=
  discoverIn_of_sound scopes fun document hmem hrefused ↦ h ⟨document, hmem, hrefused⟩

/-- Every object of a manifest is at the place of a body that was read from one of its documents. -/
theorem placed_of_yields {scopes : ScopeTable} {found : List (Option Object)}
    (h : List.Forall₂ (Yields mapper scopes) documents found) :
    ∀ object ∈ found.reduceOption, ∃ document ∈ documents,
      Yaml.readJson? document = some object.body ∧ Places mapper scopes object.body object := by
  induction h with
  | nil => simp
  | cons hfirst _ ih =>
      intro object hobject
      rcases hfirst with hnull | ⟨hread, hplace⟩
      · obtain ⟨document, hmem, hdocument⟩ := ih object hobject
        exact ⟨document, List.mem_cons_of_mem _ hmem, hdocument⟩
      · rcases List.mem_cons.1 hobject with rfl | hobject
        · exact ⟨_, List.mem_cons_self, by rw [hplace.body]; exact ⟨hread, hplace⟩⟩
        · obtain ⟨document, hmem, hdocument⟩ := ih object hobject
          exact ⟨document, List.mem_cons_of_mem _ hmem, hdocument⟩

end FleetOperator.Manifest
