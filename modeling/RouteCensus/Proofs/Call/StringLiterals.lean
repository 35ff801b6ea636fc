import RouteCensus.Proofs.Call.Bodies
import RouteCensus.Proofs.Call.Schemas

/-! # String literals

A text is written as a string literal in parts: runs of ordinary characters, which
may be cut anywhere, and an escape for each quote, backslash and control character
that has one.  Every text can be written in this way, and however it is written, the
value of the literal is the text.  It is the text that counts where the literal stands
for a method or is a key.
-/

namespace RouteCensus

open Text.Utf8

/-- The characters that are written as an escape, with the character behind the backslash. -/
def stringEscapes : List (Char × Char) :=
  [('\n', 'n'), ('\t', 't'), ('\r', 'r'), ('\x08', 'b'), ('\x0c', 'f'), ('\x0b', 'v'),
    ('\x00', '0'), ('\\', '\\'), ('\x27', '\x27'), ('"', '"')]

namespace Node

/-- The node carries the bytes that it spans in the source, and they are the text. -/
structure Covers (source : List Char) (n : Node) (s : List Char) : Prop where
  bytes : n.label.bytes = ((encode source).take n.label.stop).drop n.label.start
  between : Between source n.label.start n.label.stop s

/-- The parts of a string literal between its quotes, and the text that they write. -/
inductive Writes (source : List Char) : List Node → List Char → Prop where
  | done : Writes source [] []
  | run {n : Node} {parts : List Node} {s t : List Char} (hkind : n.kind = "string_fragment")
    (hplain : ∀ c ∈ s, c ∉ stringEscapes.map Prod.fst) (hcovers : n.Covers source s)
    (hrest : Writes source parts t) : Writes source (n :: parts) (s ++ t)
  | escape {n : Node} {parts : List Node} {c letter : Char} {t : List Char}
    (hkind : n.kind = "escape_sequence") (hletter : (c, letter) ∈ stringEscapes)
    (hcovers : n.Covers source ['\\', letter]) (hrest : Writes source parts t) :
    Writes source (n :: parts) (c :: t)

/-- The node is a string literal that writes the text between two quotes of a kind. -/
structure IsLiteral (source : List Char) (n : Node) (s : List Char) : Prop where
  kind : n.kind = "string"
  children : ∃ opening parts closing, n.children = opening :: (parts ++ [closing]) ∧
    opening.kind ∈ ["\x27", "\""] ∧ closing.kind = opening.kind ∧ Writes source parts s

end Node

section Value

variable {source s : List Char} {n : Node}

theorem escapeChar_of_mem {c letter : Char} (h : (c, letter) ∈ stringEscapes) :
    escapeChar letter = c := by
  have hall : (stringEscapes.all fun e => escapeChar e.2 == e.1) = true := by decide
  simpa using List.all_eq_true.1 hall (c, letter) h

theorem Node.Covers.text_eq (h : n.Covers source s) : n.text.toList = s := by
  rw [Node.text, String.toList_ofList, h.bytes, h.between.slice, decodeLenient_encode]

theorem stringPart_of_quote (h : n.kind ∈ ["\x27", "\""]) : stringPart n = [] := by
  rcases List.mem_pair.1 h with h | h <;> simp [stringPart, h]

theorem stringPart_of_fragment (h : n.kind = "string_fragment") : stringPart n = n.text.toList := by
  simp [stringPart, h]

theorem stringPart_of_escape (h : n.kind = "escape_sequence") :
    stringPart n = decodeEscapeChars n.text.toList := by
  simp [stringPart, h]

/-- However the runs are cut, the parts contribute the text that they write. -/
theorem Node.Writes.flatMap_stringPart_eq {parts : List Node} (h : Writes source parts s) :
    parts.flatMap stringPart = s := by
  induction h with
  | done => rfl
  | run hkind _ hcovers _ ih =>
    rw [List.flatMap_cons, ih, stringPart_of_fragment hkind, hcovers.text_eq]
  | @escape n parts c letter t hkind hletter hcovers _ ih =>
    have hpart : stringPart n = [c] := by
      rw [stringPart_of_escape hkind, hcovers.text_eq, decodeEscapeChars,
        escapeChar_of_mem hletter]
    rw [List.flatMap_cons, ih, hpart, List.singleton_append]

theorem Node.IsLiteral.stringChars_eq (h : n.IsLiteral source s) : n.stringChars = s := by
  obtain ⟨opening, parts, closing, hchildren, hopening, hclosing, hwrites⟩ := h.children
  rw [Node.stringChars, hchildren, List.flatMap_cons, List.flatMap_append, List.flatMap_singleton,
    stringPart_of_quote hopening, stringPart_of_quote (hclosing ▸ hopening),
    hwrites.flatMap_stringPart_eq, List.nil_append, List.append_nil]

end Value

section Writing

/-- A character as it stands in a literal, with the kind of the part that it makes. -/
def writtenChar (c : Char) : String × List Char :=
  match stringEscapes.find? fun e => e.1 == c with
  | some e => ("escape_sequence", ['\\', e.2])
  | none => ("string_fragment", [c])

/-- One part for each character of a text, of which the source has `before` in front. -/
def partNodes (source before : List Char) : List Char → List Node
  | [] => []
  | c :: rest =>
    Node.spanning source (writtenChar c).1 true none (encode before).length
      (encode (before ++ (writtenChar c).2)).length [] ::
        partNodes source (before ++ (writtenChar c).2) rest

def literalSource (s : List Char) : List Char :=
  '"' :: (s.flatMap (fun c => (writtenChar c).2) ++ ['"'])

/-- The literal in double quotes whose parts are single characters. -/
def literalNode (s : List Char) : Node :=
  let source := literalSource s
  let length := (encode source).length
  Node.spanning source "string" true none 0 length
    (Node.spanning source "\"" false none 0 1 [] ::
      (partNodes source ['"'] s ++ [Node.spanning source "\"" false none (length - 1) length []]))

variable {source before after : List Char}

theorem covers_spanning {s : List Char} (h : source = before ++ s ++ after) (kind : String) :
    (Node.spanning source kind true none (encode before).length (encode (before ++ s)).length
      []).Covers source s :=
  ⟨rfl, before, after, h, rfl, rfl⟩

theorem writes_partNodes {s : List Char}
    (h : source = before ++ s.flatMap (fun c => (writtenChar c).2) ++ after) :
    Node.Writes source (partNodes source before s) s := by
  induction s generalizing before with
  | nil => exact .done
  | cons c rest ih =>
    rw [List.flatMap_cons] at h
    have hsource : source =
        before ++ (writtenChar c).2 ++ (rest.flatMap (fun c => (writtenChar c).2) ++ after) := by
      rw [h]
      simp
    have hcovers := covers_spanning hsource (writtenChar c).1
    have hrest := ih (hsource.trans (List.append_assoc _ _ _).symm)
    rw [partNodes]
    cases hfind : stringEscapes.find? fun e => e.1 == c with
    | some e =>
      have hwritten : writtenChar c = ("escape_sequence", ['\\', e.2]) := by
        rw [writtenChar, hfind]
      have hchar : e.1 = c := by simpa using List.find?_some hfind
      have hletter : (c, e.2) ∈ stringEscapes := hchar ▸ List.mem_of_find?_eq_some hfind
      rw [hwritten] at hcovers hrest ⊢
      exact .escape rfl hletter hcovers hrest
    | none =>
      have hwritten : writtenChar c = ("string_fragment", [c]) := by rw [writtenChar, hfind]
      have hplain : c ∉ stringEscapes.map Prod.fst := by
        intro hmem
        obtain ⟨e, he, rfl⟩ := List.mem_map.1 hmem
        exact List.find?_eq_none.1 hfind e he (beq_self_eq_true _)
      rw [hwritten] at hcovers hrest ⊢
      exact .run rfl (by simpa using hplain) hcovers hrest

theorem isLiteral_literalNode (s : List Char) :
    (literalNode s).IsLiteral (literalSource s) s where
  kind := rfl
  children := by
    refine ⟨_, _, _, rfl, List.mem_cons_of_mem _ List.mem_cons_self, rfl, ?_⟩
    have hsource : literalSource s =
        ['"'] ++ s.flatMap (fun c => (writtenChar c).2) ++ ['"'] := by
      simp [literalSource]
    exact writes_partNodes hsource

end Writing

/-- A call of `fetch` on a URL, with an object literal for its options. -/
structure CallSite.Fetches (resolve : Resolver) (site : CallSite) (options : Node) : Prop where
  kind : site.callee.kind = "identifier"
  text : site.callee.text = "fetch"
  arguments : ∃ target second more url, site.arguments = target :: second :: more ∧
    target.url? resolve = some url ∧ second.unwrap = options
  object : options.kind = "object"

namespace Node

/-- An object literal that has a pair with this key between other members. -/
structure HasPair (object : Node) (before : List Node) (pair key : Node) (after : List Node) :
    Prop where
  object_kind : object.unwrap.kind = "object"
  members : object.unwrap.namedChildren = before ++ pair :: after
  kind : pair.kind = "pair"
  key : pair.role? "key" = some key

variable {object pair key : Node} {before after : List Node} {s : String}

theorem HasPair.property?_eq (h : object.HasPair before pair key after)
    (hkey : key.keyText? = some s)
    (hfirst : ∀ m ∈ before, m.kind = "pair" → m.pairKey? ≠ some s) :
    object.unwrap.property? s = pair.role? "value" := by
  have hpair : pair.pairKey? = some s := by rw [pairKey?, h.key, Option.bind_some, hkey]
  have hbefore : (before.filter fun m => m.kind == "pair").find? (fun m => m.pairKey? == some s) =
      none := by
    rw [List.find?_eq_none]
    intro m hm
    obtain ⟨hmem, hkind⟩ := List.mem_filter.1 hm
    simpa using hfirst m hmem (beq_iff_eq.1 hkind)
  rw [property?, h.members, List.filter_append, List.filter_cons_of_pos (by simp [h.kind]),
    List.find?_append, hbefore, Option.none_or, List.find?_cons_of_pos (by simp [hpair]),
    Option.bind_some]

/-- The key names an entry of the schema, with the type of the value unless a later member has the
same name. -/
theorem HasPair.exists_entry (h : object.HasPair before pair key after)
    (hkey : key.keyText? = some s) :
    ∃ fields field, object.schema? = some fields ∧ (s, field) ∈ fields ∧ field.name = s ∧
      ((∀ m ∈ after, ∀ f, m.Gives f → f.name ≠ s) →
        field.type = fieldType (pair.role? "value")) := by
  have hfield : pair.memberField? = some { name := s, type := fieldType (pair.role? "value") } := by
    simp [memberField?, h.kind, pairKey?, h.key, hkey]
  have hgiven : (before ++ pair :: after).filterMap memberField? =
      before.filterMap memberField? ++ { name := s, type := fieldType (pair.role? "value") } ::
        after.filterMap memberField? := by
    rw [List.filterMap_append, List.filterMap_cons, hfield]
  have hcollects := Fields.collects_foldl ((before ++ pair :: after).filterMap memberField?)
  have hkeys : s ∈ (fieldsOf (before ++ pair :: after)).map Prod.fst := by
    rw [fieldsOf, hcollects.keys, List.mem_eraseDups, hgiven]
    simp
  obtain ⟨entry, hentry, rfl⟩ := List.mem_map.1 hkeys
  obtain ⟨hname, hlast⟩ := hcollects.last entry.1 entry.2 hentry
  refine ⟨_, entry.2, schema?_of_object h.object_kind, ?_, hname, ?_⟩
  · rw [h.members]
    exact hentry
  · intro hafter
    have hnone : (after.filterMap memberField?).filter (fun f => f.name == entry.1) = [] := by
      rw [List.filter_eq_nil_iff]
      intro f hf
      obtain ⟨m, hm, hmf⟩ := List.mem_filterMap.1 hf
      simpa using hafter m hm f (memberField?_eq_some_iff.1 hmf)
    rw [hgiven, List.filter_append, List.filter_cons_of_pos (by simp), hnone,
      List.getLast?_concat] at hlast
    rw [← Option.some.inj hlast]

theorem IsLiteral.keyText?_eq {source : List Char} {n : Node} (h : n.IsLiteral source s.toList) :
    n.keyText? = some s := by
  have hvalue : n.stringValue = s := by
    rw [stringValue, h.stringChars_eq, String.ofList_toList]
  rw [keyText?_eq_some_iff, ← hvalue]
  exact .string h.kind

theorem IsLiteral.optionsMethod_eq {source : List Char} {n options : Node}
    (h : n.IsLiteral source s.toList) (hmethod : (options.property? "method").map unwrap = some n) :
    optionsMethod (some options) = Text.upcase s := by
  rw [optionsMethod, Option.bind_some, hmethod]
  simp [h.kind, stringValue, h.stringChars_eq]

end Node

/-- Every text can be written as a string literal, and the value of a literal that writes it is the
text, wherever its runs are cut.  As the method of a `fetch` call it is this text that names the
method, and as the key of a pair it is the name under which the value is found and that the schema
has. -/
theorem stringValue_of_isLiteral (s : String) :
    (∃ source n, Node.IsLiteral source n s.toList) ∧
      ∀ (source : List Char) (n : Node), n.IsLiteral source s.toList →
        n.stringValue = s ∧
        (∀ (resolve : Resolver) (site : CallSite) (options : Node), site.Fetches resolve options →
          (options.property? "method").map Node.unwrap = some n →
            ∃ found, CallSite.observation? resolve site = some found ∧ found.method = Text.upcase s ∧
              ∀ file e, found.describe? file = some e →
                HttpMethod.ofWord? (normalMethod s) = some e.method) ∧
        ∀ (object : Node) (before : List Node) (pair : Node) (after : List Node),
          object.HasPair before pair n after →
            ((∀ m ∈ before, m.kind = "pair" → m.pairKey? ≠ some s) →
              object.unwrap.property? s = pair.role? "value") ∧
            ∃ fields field, object.schema? = some fields ∧ (s, field) ∈ fields ∧ field.name = s ∧
              ((∀ m ∈ after, ∀ f, m.Gives f → f.name ≠ s) →
                field.type = Node.fieldType (pair.role? "value")) := by
  refine ⟨⟨_, _, isLiteral_literalNode s.toList⟩, ?_⟩
  intro source n h
  refine ⟨?_, ?_, ?_⟩
  · rw [Node.stringValue, h.stringChars_eq, String.ofList_toList]
  · intro resolve site options hfetches hmethod
    obtain ⟨target, second, more, url, harguments, hurl, rfl⟩ := hfetches.arguments
    have hword := h.optionsMethod_eq hmethod
    refine ⟨_, CallSite.observation?_fetch hfetches.kind hfetches.text harguments hurl
      hfetches.object, hword, ?_⟩
    intro file e he
    obtain ⟨-, known, hknown, rfl⟩ := Observation.describe?_eq_some_iff.1 he
    rw [← normalMethod_upcase, ← hword]
    exact hknown
  · intro object before pair after hpair
    exact ⟨hpair.property?_eq h.keyText?_eq, hpair.exists_entry h.keyText?_eq⟩

namespace Node

def escapedSource : List Char := "\x7b'aé\\n😀\\'': 1\x7d".toList

/-- The first two characters are cut apart. -/
def escapedParts : List Node :=
  [spanning escapedSource "string_fragment" true none 2 3 [],
    spanning escapedSource "string_fragment" true none 3 5 [],
    spanning escapedSource "escape_sequence" true none 5 7 [],
    spanning escapedSource "string_fragment" true none 7 11 [],
    spanning escapedSource "escape_sequence" true none 11 13 []]

def escapedKey : Node :=
  spanning escapedSource "string" true (some "key") 1 14
    (spanning escapedSource "\x27" false none 1 2 [] ::
      (escapedParts ++ [spanning escapedSource "\x27" false none 13 14 []]))

def escapedPair : Node :=
  spanning escapedSource "pair" true none 1 17 [
    escapedKey,
    spanning escapedSource ":" false none 14 15 [],
    spanning escapedSource "number" true (some "value") 16 17 []]

def escapedObject : Node :=
  spanning escapedSource "object" true none 0 18 [
    spanning escapedSource "\x7b" false none 0 1 [],
    escapedPair,
    spanning escapedSource "\x7d" false none 17 18 []]

theorem isLiteral_escapedKey : escapedKey.IsLiteral escapedSource "aé\n😀\x27".toList where
  kind := rfl
  children := by
    refine ⟨_, escapedParts, _, rfl, List.mem_cons_self, rfl, ?_⟩
    refine .run (s := ['a']) rfl (by simp [stringEscapes])
      ⟨rfl, escapedSource.take 2, escapedSource.drop 3, rfl, rfl, rfl⟩ ?_
    refine .run (s := ['é']) rfl (by simp [stringEscapes])
      ⟨rfl, escapedSource.take 3, escapedSource.drop 4, rfl, rfl, rfl⟩ ?_
    refine .escape rfl (show ('\n', 'n') ∈ stringEscapes by decide)
      ⟨rfl, escapedSource.take 4, escapedSource.drop 6, rfl, rfl, rfl⟩ ?_
    refine .run (s := ['😀']) rfl (by simp [stringEscapes])
      ⟨rfl, escapedSource.take 6, escapedSource.drop 7, rfl, rfl, rfl⟩ ?_
    exact .escape rfl (show ('\x27', '\x27') ∈ stringEscapes by decide)
      ⟨rfl, escapedSource.take 7, escapedSource.drop 9, rfl, rfl, rfl⟩ .done

theorem hasPair_escapedObject : escapedObject.HasPair [] escapedPair escapedKey [] where
  object_kind := by decide +kernel
  members := rfl
  kind := rfl
  key := rfl

/-- The options `{ method: ("post") }`. -/
def bracketedOptions : Node :=
  .mk { kind := "object" } [.mk { kind := "pair" }
    [wordNode "property_identifier" (some "key") "method",
      .mk { kind := "parenthesized_expression", field := some "value" }
        [literalNode "post".toList]]]

/-- The call `fetch('/api/x', { method: ("post") })`. -/
def bracketedSite : CallSite where
  callee := wordNode "identifier" (some "function") "fetch"
  arguments := [.mk { kind := "string" } [wordNode "string_fragment" none "/api/x"],
    bracketedOptions]
  scope := 0
  line := 1

theorem fetches_bracketedSite : bracketedSite.Fetches (fun _ => none) bracketedOptions where
  kind := rfl
  text := by decide +kernel
  arguments := ⟨_, _, _, "/api/x", rfl, by decide +kernel, rfl⟩
  object := rfl

end Node

/-- A key with escapes that is cut between two characters, and a method in brackets. -/
theorem stringValue_escapedKey :
    Node.escapedKey.IsLiteral Node.escapedSource "aé\n😀\x27".toList ∧
      Node.escapedKey.stringValue = "aé\n😀\x27" ∧
      (∃ fields field, Node.escapedObject.schema? = some fields ∧
        ("aé\n😀\x27", field) ∈ fields ∧ field.type = .number) ∧
      ∃ found, CallSite.observation? (fun _ => none) Node.bracketedSite = some found ∧
        found.method = "POST" := by
  obtain ⟨hvalue, -, hkey⟩ := (stringValue_of_isLiteral _).2 _ _ Node.isLiteral_escapedKey
  obtain ⟨-, fields, field, hschema, hfield, -, htype⟩ := hkey _ _ _ _ Node.hasPair_escapedObject
  obtain ⟨-, hmethod, -⟩ := (stringValue_of_isLiteral _).2 _ _ (isLiteral_literalNode "post".toList)
  obtain ⟨found, hfound, hword, -⟩ := hmethod _ _ _ Node.fetches_bracketedSite rfl
  refine ⟨Node.isLiteral_escapedKey, hvalue, ⟨fields, field, hschema, hfield, ?_⟩,
    found, hfound, ?_⟩
  · rw [htype (by simp)]
    decide +kernel
  · rw [hword]
    decide +kernel

end RouteCensus
