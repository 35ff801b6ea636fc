import RouteCensus.Proofs.Call.Consistency
import RouteCensus.Proofs.Expr.Leaves
import RouteCensus.Proofs.Text.Pieces

/-! # Schemas of object literals

The properties of an object literal are its shorthands and its pairs, as long as the
key of a pair is not computed.  The schema has an entry for each of their names: at
the place where the name first occurs, and with the type of the value that it is
given last.  Spreads, methods, comments and computed keys leave no trace, so an
object without them has the same schema.
-/

namespace RouteCensus

namespace Fields

/-- Among different keys, setting a field replaces the entry of its key and no other. -/
theorem mem_set_of_nodup {key : String} {field : SchemaField} {fields : Fields}
    (hkeys : (fields.map Prod.fst).Nodup) {entry : String × SchemaField}
    (h : entry ∈ Fields.set key field fields) :
    entry = (key, field) ∨ entry ∈ fields ∧ entry.1 ≠ key := by
  induction fields with
  | nil => exact .inl (List.mem_singleton.1 h)
  | cons known fields ih =>
    rw [List.map_cons, List.nodup_cons] at hkeys
    rw [Fields.set] at h
    split at h
    · next hknown =>
      rcases List.mem_cons.1 h with rfl | hmem
      · exact .inl rfl
      · refine .inr ⟨List.mem_cons_of_mem known hmem, ?_⟩
        rintro rfl
        exact hkeys.1 (hknown ▸ List.mem_map_of_mem hmem)
    · next hknown =>
      rcases List.mem_cons.1 h with rfl | hmem
      · exact .inr ⟨List.mem_cons_self, hknown⟩
      · exact (ih hkeys.2 hmem).imp_right (And.imp_left (List.mem_cons_of_mem known))

/-- The entries for fields that are given one after the other: a key for each name where it first
occurs, and with it the field that was last given under this name. -/
structure Collects (given : List SchemaField) (entries : Fields) : Prop where
  keys : entries.map Prod.fst = (given.map SchemaField.name).eraseDups
  last : ∀ key field, (key, field) ∈ entries →
    field.name = key ∧ (given.filter fun f => f.name == key).getLast? = some field

/-- The step lemma: one more field moves no key, and is the last one of its name. -/
theorem Collects.set {given : List SchemaField} {entries : Fields} (h : Collects given entries)
    (field : SchemaField) :
    Collects (given ++ [field]) (Fields.set field.name field entries) where
  keys := by
    rw [keys_set, h.keys, List.map_append, List.map_singleton, Text.eraseDups_concat]
    simp only [List.mem_eraseDups]
    split
    · exact (List.append_nil _).symm
    · rfl
  last := by
    intro key found hfound
    have hnodup : (entries.map Prod.fst).Nodup := h.keys ▸ Text.nodup_eraseDups _
    rw [List.filter_append, List.getLast?_append]
    rcases mem_set_of_nodup hnodup hfound with heq | ⟨hmem, hne⟩
    · obtain ⟨rfl, rfl⟩ := Prod.mk.inj heq
      simp
    · obtain ⟨hname, hlast⟩ := h.last key found hmem
      exact ⟨hname, by simp [hlast, Ne.symm hne]⟩

theorem collects_foldl (given : List SchemaField) :
    Collects given
      (given.foldl (fun entries field => Fields.set field.name field entries) []) := by
  induction given using List.reverseRecOn with
  | nil => exact ⟨rfl, nofun⟩
  | append_singleton given field ih =>
    rw [List.foldl_append]
    exact ih.set field

end Fields

namespace Node

/-- The name that a key spells: a word or a number as it is written, a string by its value. -/
inductive Spells : Node → String → Prop where
  | word {key : Node}
    (h : key.kind ∈ ["property_identifier", "identifier", "private_property_identifier"]) :
    Spells key key.text
  | number {key : Node} (h : key.kind = "number") : Spells key key.text
  | string {key : Node} (h : key.kind = "string") : Spells key key.stringValue

/-- The type that a value shows inside its wrappers, and that of no value at all. -/
inductive Shows : Option Node → FieldType → Prop where
  | number {value inner : Node} (h : Unwraps firstNamed? value inner)
    (hkind : inner.kind = "number") : Shows (some value) .number
  | boolean {value inner : Node} (h : Unwraps firstNamed? value inner)
    (hkind : inner.kind = "true" ∨ inner.kind = "false") : Shows (some value) .boolean
  | other {value inner : Node} (h : Unwraps firstNamed? value inner)
    (hkind : inner.kind ∉ ["number", "true", "false"]) : Shows (some value) .string
  | absent : Shows none .string

/-- The field that a property gives. -/
inductive Gives : Node → SchemaField → Prop where
  | pair {member key : Node} {name : String} {type : FieldType} (hkind : member.kind = "pair")
    (hkey : member.role? "key" = some key) (hname : key.Spells name)
    (htype : Shows (member.role? "value") type) : Gives member { name := name, type := type }
  | shorthand {member : Node} (hkind : member.kind = "shorthand_property_identifier") :
    Gives member { name := member.text, type := .string }

def keyKinds : List String :=
  ["property_identifier", "identifier", "private_property_identifier", "number", "string"]

/-- A shorthand, or a pair with a word, a string or a number as its key. -/
def isProperty (member : Node) : Bool :=
  member.kind == "shorthand_property_identifier" ||
    member.kind == "pair" && (member.role? "key").any fun key => keyKinds.contains key.kind

/-- A spread, a method, a comment, a pair with a computed key, or a mere token. -/
def isIdle (member : Node) : Bool :=
  !member.named ||
    ["spread_element", "method_definition", "comment", "html_comment"].contains member.kind ||
      member.kind == "pair" &&
        (member.role? "key").any fun key => key.kind == "computed_property_name"

/-- The second list is the first one without some of its idle members. -/
inductive Thinned : List Node → List Node → Prop where
  | nil : Thinned [] []
  | keep {member : Node} {members kept : List Node} (h : Thinned members kept) :
    Thinned (member :: members) (member :: kept)
  | drop {member : Node} {members kept : List Node} (hidle : member.isIdle = true)
    (h : Thinned members kept) : Thinned (member :: members) kept

section Members

variable {member key : Node}

theorem keyText?_eq_some_iff {name : String} : key.keyText? = some name ↔ key.Spells name := by
  unfold keyText?
  constructor
  · intro h
    split at h
    · next hkind =>
      obtain rfl := Option.some.inj h
      simp only [List.contains_iff_mem, List.mem_cons, List.not_mem_nil, or_false] at hkind
      rcases hkind with hkind | hkind | hkind | hkind
      · exact .word (by simp [hkind])
      · exact .word (by simp [hkind])
      · exact .word (by simp [hkind])
      · exact .number hkind
    · split at h
      · next hkind =>
        obtain rfl := Option.some.inj h
        exact .string (beq_iff_eq.1 hkind)
      · cases h
  · intro h
    cases h with
    | word h =>
      simp only [List.mem_cons, List.not_mem_nil, or_false] at h
      rcases h with h | h | h <;> simp [h]
    | number h => simp [h]
    | string h => simp [h]

theorem fieldType_shows (value : Option Node) : Shows value (fieldType value) := by
  unfold fieldType
  cases value with
  | none => exact .absent
  | some value =>
    have hunwraps : Unwraps firstNamed? value value.unwrap := unwraps_unwrap fun _ _ _ => rfl
    simp only [Option.map_some]
    split
    · next hkind => exact .number hunwraps (beq_iff_eq.1 hkind)
    · next hnumber =>
      split
      · next hkind => exact .boolean hunwraps (by simpa using hkind)
      · next hkind => exact .other hunwraps (by simp_all)

theorem Shows.eq_fieldType {value : Option Node} {type : FieldType} (h : Shows value type) :
    type = fieldType value := by
  unfold fieldType
  cases h with
  | number h hkind =>
    obtain rfl := h.eq_unwrap
    simp [hkind]
  | boolean h hkind =>
    obtain rfl := h.eq_unwrap
    rcases hkind with hkind | hkind <;> simp [hkind]
  | other h hkind =>
    obtain rfl := h.eq_unwrap
    simp_all
  | absent => rfl

theorem memberField?_eq_some_iff {field : SchemaField} :
    member.memberField? = some field ↔ member.Gives field := by
  unfold memberField?
  constructor
  · intro h
    split at h
    · next hkind =>
      obtain ⟨name, hname, rfl⟩ := Option.map_eq_some_iff.1 h
      obtain ⟨key, hkey, hname⟩ := Option.bind_eq_some_iff.1 hname
      exact .pair (beq_iff_eq.1 hkind) hkey (keyText?_eq_some_iff.1 hname) (fieldType_shows _)
    · split at h
      · next hkind =>
        obtain rfl := Option.some.inj h
        exact .shorthand (beq_iff_eq.1 hkind)
      · cases h
  · intro h
    cases h with
    | pair hkind hkey hname htype =>
      simp [hkind, pairKey?, hkey, keyText?_eq_some_iff.2 hname, htype.eq_fieldType]
    | shorthand hkind => simp [hkind]

theorem keyText?_isSome (key : Node) : key.keyText?.isSome = keyKinds.contains key.kind := by
  rw [Bool.eq_iff_iff, Option.isSome_iff_exists]
  simp only [keyText?_eq_some_iff, keyKinds, List.contains_iff_mem]
  constructor
  · rintro ⟨name, h⟩
    cases h with
    | word h => exact List.mem_append_left ["number", "string"] h
    | number h => simp [h]
    | string h => simp [h]
  · intro h
    rcases List.mem_append.1 (show key.kind ∈
      ["property_identifier", "identifier", "private_property_identifier"] ++ ["number", "string"]
        from h) with h | h
    · exact ⟨_, .word h⟩
    · rcases List.mem_pair.1 h with h | h
      · exact ⟨_, .number h⟩
      · exact ⟨_, .string h⟩

theorem memberField?_isSome (member : Node) : member.memberField?.isSome = member.isProperty := by
  unfold memberField? isProperty pairKey?
  cases hpair : member.kind == "pair" with
  | true =>
    have hkind := beq_iff_eq.1 hpair
    cases member.role? "key" <;> simp [hkind, keyText?_isSome]
  | false => cases member.kind == "shorthand_property_identifier" <;> simp

theorem memberField?_of_isIdle (hnamed : member.named = true) (h : member.isIdle = true) :
    member.memberField? = none := by
  rw [Option.eq_none_iff_forall_ne_some]
  intro field hfield
  simp only [isIdle, hnamed, Bool.not_true, Bool.false_or, Bool.or_eq_true, Bool.and_eq_true,
    beq_iff_eq, List.contains_iff_mem] at h
  cases memberField?_eq_some_iff.1 hfield with
  | pair hkind hkey hname _ =>
    rcases h with h | ⟨-, h⟩
    · rw [hkind] at h
      exact absurd h (by decide)
    · rw [hkey, Option.any_some, beq_iff_eq] at h
      cases hname with
      | word hname => simp [h] at hname
      | number hname => simp [h] at hname
      | string hname => simp [h] at hname
  | shorthand hkind =>
    rw [hkind] at h
    exact absurd h (by simp)

end Members

section Schema

theorem forall₂_gives (members : List Node) :
    List.Forall₂ Gives (members.filter isProperty) (members.filterMap memberField?) := by
  induction members with
  | nil => exact .nil
  | cons member members ih =>
    rw [List.filter_cons, List.filterMap_cons, ← memberField?_isSome]
    cases hfield : member.memberField? with
    | none => exact ih
    | some field => exact .cons (memberField?_eq_some_iff.1 hfield) ih

theorem Thinned.filterMap_eq {members kept : List Node} (h : Thinned members kept) :
    (kept.filter named).filterMap memberField? = (members.filter named).filterMap memberField? := by
  induction h with
  | nil => rfl
  | @keep member members kept _ ih =>
    rw [List.filter_cons, List.filter_cons]
    cases member.named with
    | false => exact ih
    | true => rw [if_pos rfl, if_pos rfl, List.filterMap_cons, List.filterMap_cons, ih]
  | @drop member members kept hidle _ ih =>
    rw [ih, List.filter_cons]
    cases hnamed : member.named with
    | false => rfl
    | true => rw [if_pos rfl, List.filterMap_cons, memberField?_of_isIdle hnamed hidle]

theorem schema?_of_object {n : Node} (h : n.unwrap.kind = "object") :
    n.schema? = some (fieldsOf n.unwrap.namedChildren) := by
  rw [schema?, h]
  rfl

/-- The schema of an object literal has an entry for each name of a property, in the order of the
first occurrences, with the type of the last one.  It is that of the object without its spreads,
methods, comments and computed keys. -/
theorem schema?_collects {n : Node} (h : n.unwrap.kind = "object") :
    ∃ given entries, List.Forall₂ Gives (n.unwrap.namedChildren.filter isProperty) given ∧
      n.schema? = some entries ∧ Fields.Collects given entries ∧
      ∀ (label : Label) (kept : List Node), label.kind = "object" →
        Thinned n.unwrap.children kept → (mk label kept).schema? = some entries := by
  refine ⟨_, _, forall₂_gives _, schema?_of_object h, Fields.collects_foldl _, ?_⟩
  intro label kept hlabel hkept
  have hself : (mk label kept).unwrap = mk label kept := by
    apply unwrap_of_not_wrapper
    rw [kind, Node.label, hlabel]
    rfl
  rw [schema?_of_object (by rw [hself]; exact hlabel), hself]
  simp only [fieldsOf, namedChildren, children]
  rw [hkept.filterMap_eq]
  rfl

/-- A string literal as a key. -/
def stringKey (text : String) : Node :=
  .mk { kind := "string", field := some "key" } [wordNode "string_fragment" none text]

def pairNode (key value : Node) : Node :=
  .mk { kind := "pair" } [key, wordNode ":" none ":", value]

/-- The properties of `{ 'first-name': 'a', count: (1), ...rest, [dyn]: 1, go() {}, short,
/* c */ 'count': true }` that have a name. -/
def namedMembers : List Node :=
  [pairNode (stringKey "first-name") (wordNode "string" (some "value") "'a'"),
    pairNode (wordNode "property_identifier" (some "key") "count")
      (.mk { kind := "parenthesized_expression", field := some "value" }
        [wordNode "number" none "1"]),
    wordNode "shorthand_property_identifier" none "short",
    pairNode (stringKey "count") (wordNode "true" (some "value") "true")]

def crowdedMembers : List Node :=
  namedMembers.take 2 ++
    [wordNode "spread_element" none "...rest",
      pairNode (wordNode "computed_property_name" (some "key") "[dyn]")
        (wordNode "number" (some "value") "1"),
      wordNode "method_definition" none "go() \x7b\x7d"] ++
    [wordNode "shorthand_property_identifier" none "short", wordNode "comment" none "/* c */"] ++
    namedMembers.drop 3

/-- The name that is given twice has its first place and its last type. -/
theorem schema?_crowdedMembers :
    (mk { kind := "object" } crowdedMembers).unwrap.kind = "object" ∧
      (mk { kind := "object" } crowdedMembers).schema? =
        some [("first-name", { name := "first-name", type := .string }),
          ("count", { name := "count", type := .boolean }),
          ("short", { name := "short", type := .string })] ∧
      (mk { kind := "object" } namedMembers).schema? =
        (mk { kind := "object" } crowdedMembers).schema? := by
  have hobject : (mk { kind := "object" } crowdedMembers).unwrap.kind = "object" := by
    decide +kernel
  obtain ⟨given, entries, -, hentries, -, hthinned⟩ := schema?_collects hobject
  refine ⟨hobject, by decide +kernel, ?_⟩
  rw [hentries]
  exact hthinned _ _ rfl (.keep (.keep (.drop (by decide +kernel) (.drop (by decide +kernel)
    (.drop (by decide +kernel) (.keep (.drop (by decide +kernel) (.keep .nil))))))))

end Schema

end Node
end RouteCensus
