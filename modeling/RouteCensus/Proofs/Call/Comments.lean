import RouteCensus.Proofs.Call.Likeness

/-! # Comments between brackets

Comments may be put between the arguments of a call, into brackets around an
expression and into the substitutions of a template.  The readers of calls skip
the comments among arguments, but of brackets, of a substitution and of the
arguments of `JSON.stringify` they take the first named node, which may be a
comment.  As long as no comment comes first there, comments change nothing about
the HTTP calls of a program.
-/

namespace RouteCensus

/-- Kinds of nodes that comments are put into. -/
def takesComments (kind : String) : Bool :=
  ["arguments", "parenthesized_expression", "template_substitution"].contains kind

/-- The bytes of a template outside its substitutions, from the offset `cursor` on. -/
def fixedBytesFrom (bytes : List UInt8) (base cursor : Nat) : List Node → List (List UInt8)
  | [] => [(bytes.take (bytes.length - 1)).drop cursor]
  | child :: rest =>
    if child.kind == "template_substitution" then
      (bytes.take (child.label.start - base)).drop cursor ::
        fixedBytesFrom bytes base (child.label.stop - base) rest
    else
      fixedBytesFrom bytes base cursor rest

namespace Node

def fixedBytes (n : Node) : List (List UInt8) :=
  fixedBytesFrom n.label.bytes n.label.start 1 n.children

/-- The second tree is the first one with comments put between brackets.  A node without a comment
in it keeps its bytes, and so do the fixed parts of a template.  Unless comments may stand
`anywhere`, none comes before the first named node of brackets, of a substitution or of the
arguments of `JSON.stringify`. -/
inductive Commented (anywhere : Bool) : Node → Node → Prop where
  | mk {label label' : Label} {children kept children' : List Node}
    (kind : label.kind = label'.kind) (named : label.named = label'.named)
    (field : label.field = label'.field)
    (each : List.Forall₂ (Commented anywhere) children kept)
    (inserted : Interspersed kept children')
    (taking : kept = children' ∨ takesComments label.kind = true)
    (first : anywhere = false → label.kind ≠ "arguments" →
      (kept.filter Node.named).head? = (children'.filter Node.named).head?)
    (payload : anywhere = false → label.kind = "call_expression" →
      (Node.mk label children).stringifies = true →
      Option.Rel (Commented anywhere) (Node.mk label children).payload?
        (Node.mk label' children').payload?)
    -- With as many nodes below as before, no comment was put in.
    (bytes : sizeAll children = sizeAll children' → label.bytes = label'.bytes)
    (fixed : label.kind = "template_string" →
      (Node.mk label children).fixedBytes = (Node.mk label' children').fixedBytes) :
    Commented anywhere (.mk label children) (.mk label' children')

/-- A node without brackets in it. -/
def IsWord (n : Node) : Prop :=
  n.Every fun m => takesComments m.kind = false

instance (n : Node) : Decidable n.IsWord :=
  inferInstanceAs (Decidable (n.Every _))

/-- The nodes that are read by their text have no brackets in them. -/
structure Worded (n : Node) : Prop where
  kinds : isWordKind n.kind = true → n.IsWord
  roles : ∀ entry ∈ wordRoles, entry.1 = n.kind → ∀ child ∈ n.role? entry.2, child.IsWord
  keyword : n.kind = "lexical_declaration" → ∀ child ∈ n.children.head?, child.IsWord
  json : ∀ child ∈ n.role? "object", child.text = "JSON" → child.IsWord

instance (n : Node) : Decidable n.Worded :=
  decidable_of_iff
    ((isWordKind n.kind = true → n.IsWord) ∧
      (∀ entry ∈ wordRoles, entry.1 = n.kind → ∀ child ∈ n.role? entry.2, child.IsWord) ∧
      (n.kind = "lexical_declaration" → ∀ child ∈ n.children.head?, child.IsWord) ∧
      ∀ child ∈ n.role? "object", child.text = "JSON" → child.IsWord)
    ⟨fun h => ⟨h.1, h.2.1, h.2.2.1, h.2.2.2⟩, fun h => ⟨h.kinds, h.roles, h.keyword, h.json⟩⟩

theorem mem_of_payload? {n p : Node} (h : n.payload? = some p) :
    ∃ list ∈ n.children, p ∈ list.children := by
  obtain ⟨list, hlist, hp⟩ := Option.bind_eq_some_iff.1 h
  exact ⟨list, mem_children_of_role? hlist, mem_children_of_firstNamed? hp⟩

theorem Every.payload? {P : Node → Prop} {n p : Node} (h : n.Every P) (hp : n.payload? = some p) :
    p.Every P := by
  obtain ⟨list, hlist, hmem⟩ := mem_of_payload? hp
  exact (h.child hlist).child hmem

theorem sizeAll_eq {xs ys : List Node} (h : List.Forall₂ (fun c d => c.size = d.size) xs ys) :
    sizeAll xs = sizeAll ys := by
  induction h with
  | nil => rfl
  | cons hcd _ ih => rw [sizeAll, sizeAll, hcd, ih]

namespace Commented

variable {anywhere : Bool} {n m : Node}

theorem kind_eq (h : n.Commented anywhere m) : n.kind = m.kind := by
  cases h
  assumption

theorem named_eq (h : n.Commented anywhere m) : n.named = m.named := by
  cases h
  assumption

theorem field_eq (h : n.Commented anywhere m) : n.label.field = m.label.field := by
  cases h
  assumption

/-- A node without brackets has no room for a comment. -/
theorem size_eq (h : n.Commented anywhere m) (hword : n.IsWord ∨ m.IsWord) : n.size = m.size := by
  induction n using induction_children generalizing m with
  | step n ih =>
    have htakes : takesComments n.kind = false :=
      hword.elim (fun hn => hn.self) fun hm => h.kind_eq ▸ hm.self
    cases h with
    | mk kind named field each inserted taking first payload bytes fixed =>
      obtain rfl := taking.resolve_right (Bool.eq_false_iff.1 htakes)
      rw [size, size, sizeAll_eq (forall₂_imp_of_mem each fun c hc d hd hcd => ?_)]
      exact ih c hc hcd (hword.imp (fun hn => hn.child hc) fun hm => hm.child hd)

theorem text_eq (h : n.Commented anywhere m) (hword : n.IsWord ∨ m.IsWord) : n.text = m.text := by
  have hsize := h.size_eq hword
  cases h with
  | mk kind named field each inserted taking first payload bytes fixed =>
    rw [size, size, Nat.add_left_cancel_iff] at hsize
    exact congrArg (fun bytes => String.ofList (Text.Utf8.decodeLenient bytes)) (bytes hsize)

theorem refl_and_children (n : Node) :
    n.Commented anywhere n ∧ ∀ child ∈ n.children, child.Commented anywhere child := by
  -- The payload of a call is a grandchild of it, so the induction carries the children along.
  induction n using induction_children with
  | step n ih =>
    refine ⟨?_, fun child hchild => (ih child hchild).1⟩
    have hpayload : Option.Rel (Commented anywhere) n.payload? n.payload? := by
      cases hp : n.payload? with
      | none => exact .none
      | some p =>
        obtain ⟨list, hlist, hmem⟩ := mem_of_payload? hp
        exact .some ((ih list hlist).2 p hmem)
    cases n with
    | mk label children =>
      have heach := List.forall₂_same.2 fun child hchild => (ih child hchild).1
      exact .mk rfl rfl rfl heach (.refl _) (.inl rfl) (fun _ _ => rfl) (fun _ _ _ => hpayload)
        (fun _ => rfl) fun _ => rfl

theorem refl (n : Node) : n.Commented anywhere n :=
  (refl_and_children n).1

end Commented

/-- A tree and the same tree with comments, none of them first, both read by words. -/
structure Glossed (n m : Node) : Prop where
  commented : n.Commented false m
  words : n.Every Worded
  words' : m.Every Worded

end Node

theorem Interspersed.filter_eq {xs ys : List Node} {p : Node → Bool} (h : Interspersed xs ys)
    (hcomment : ∀ n : Node, n.IsComment → p n = false) : xs.filter p = ys.filter p := by
  induction h with
  | nil => rfl
  | keep h ih => rw [List.filter_cons, List.filter_cons, ih]
  | comment hn h ih => rw [List.filter_cons, hcomment _ hn, if_neg Bool.false_ne_true, ih]

theorem not_taking_of_plain {kind : String} (h : isPlainKind kind = true) :
    takesComments kind = false := by
  rw [takesComments, Bool.eq_false_iff, ne_eq, List.contains_iff_mem]
  intro hmem
  have hall : ∀ other ∈ ["arguments", "parenthesized_expression", "template_substitution"],
      isPlainKind other = false := by decide
  exact absurd (h.symm.trans (hall kind hmem)) (by decide)

/-- Templates with the same fixed bytes, whose substitutions hold related expressions. -/
theorem templatePiecesFrom_rel {S R : Node → Node → Prop} (hkind : ∀ c d, S c d → c.kind = d.kind)
    (hfirst : ∀ c d, S c d → c.kind = "template_substitution" →
      Option.Rel R c.firstNamed? d.firstNamed?)
    {bytes bytes' : List UInt8} {base base' cursor cursor' : Nat} {xs ys : List Node}
    (h : List.Forall₂ S xs ys)
    (hfixed : fixedBytesFrom bytes base cursor xs = fixedBytesFrom bytes' base' cursor' ys) :
    List.Forall₂ (UrlPiece.Alike R) (templatePiecesFrom bytes base cursor xs)
      (templatePiecesFrom bytes' base' cursor' ys) := by
  induction h generalizing cursor cursor' with
  | nil =>
    rw [fixedBytesFrom, fixedBytesFrom, List.cons.injEq] at hfixed
    rw [templatePiecesFrom, templatePiecesFrom, textBetween, textBetween, hfixed.1]
    exact .cons (.text _) .nil
  | @cons c d _ _ hcd _ ih =>
    rw [fixedBytesFrom, fixedBytesFrom, ← hkind c d hcd] at hfixed
    rw [templatePiecesFrom, templatePiecesFrom, ← hkind c d hcd]
    by_cases hsub : c.kind = "template_substitution"
    · simp only [hsub, beq_self_eq_true, if_true, List.cons.injEq] at hfixed ⊢
      rw [textBetween, textBetween, hfixed.1]
      exact .cons (.text _) (.cons (.hole (hfirst c d hcd hsub)) (ih hfixed.2))
    · simp only [beq_eq_false_iff_ne.2 hsub, Bool.false_eq_true, if_false] at hfixed ⊢
      exact ih hfixed

namespace Node.Glossed

variable {n m : Node}

theorem kind_eq (h : n.Glossed m) : n.kind = m.kind :=
  h.commented.kind_eq

theorem named_eq (h : n.Glossed m) : n.named = m.named :=
  h.commented.named_eq

/-- The children that were there before, with comments put between them if there is room. -/
theorem exists_kept (h : n.Glossed m) : ∃ kept : List Node,
    List.Forall₂ Glossed n.children kept ∧ Interspersed kept m.children ∧
      (kept = m.children ∨ takesComments n.kind = true) ∧
      (n.kind ≠ "arguments" → (kept.filter named).head? = m.firstNamed?) := by
  obtain ⟨hcommented, hn, hm⟩ := h
  cases hcommented with
  | mk kind named field each inserted taking first =>
    refine ⟨_, forall₂_imp_of_mem each fun c hc d hd hcd => ?_, inserted, taking, first rfl⟩
    exact ⟨hcd, hn.child hc, hm.child (inserted.mem hd)⟩

theorem children_matched (h : n.Glossed m) : Matched false Glossed n.children m.children := by
  obtain ⟨kept, hkept, hinserted, -, -⟩ := h.exists_kept
  exact ⟨kept, .of_forall₂ hkept, hinserted⟩

theorem children (h : n.Glossed m) (htakes : takesComments n.kind = false) :
    List.Forall₂ Glossed n.children m.children := by
  obtain ⟨kept, hkept, -, htaking, -⟩ := h.exists_kept
  exact htaking.resolve_right (Bool.eq_false_iff.1 htakes) ▸ hkept

/-- The first named child is the same one, in all nodes but lists of arguments. -/
theorem firstNamed?_rel (h : n.Glossed m) (hkind : n.kind ≠ "arguments") :
    Option.Rel Glossed n.firstNamed? m.firstNamed? := by
  obtain ⟨kept, hkept, -, -, hfirst⟩ := h.exists_kept
  rw [← hfirst hkind]
  exact rel_head? (List.rel_filter (fun _ _ hcd => by simp only [hcd.named_eq]) hkept)

/-- The arguments of a call, without comments. -/
theorem arguments_rel (h : n.Glossed m) :
    List.Forall₂ Glossed (n.namedChildren.filter fun a => a.kind != "comment")
      (m.namedChildren.filter fun a => a.kind != "comment") := by
  obtain ⟨kept, hkept, hinserted⟩ := h.children_matched
  have hnamed := List.rel_filter (p := fun a => named a = true) (q := fun a => named a = true)
    (fun _ _ hcd => by simp only [hcd.named_eq]) hkept.forall₂
  have hskipped := (hinserted.filter named).filter_eq (p := fun a => a.kind != "comment")
    fun a ha => by rw [ha.kind]; rfl
  unfold namedChildren
  rw [← hskipped]
  exact List.rel_filter (fun _ _ hcd => by simp only [hcd.kind_eq]) (by simpa using hnamed)

theorem role?_rel (h : n.Glossed m) (htakes : takesComments n.kind = false) (field : String) :
    Option.Rel Glossed (n.role? field) (m.role? field) :=
  rel_imp (rel_find? (h.children htakes) fun c d hcd => by rw [hcd.commented.field_eq])
    fun _ _ _ hcd => hcd.1

theorem text_eq (h : n.Glossed m) (hword : n.IsWord ∨ m.IsWord) : n.text = m.text :=
  h.commented.text_eq hword

theorem templatePieces_rel (h : n.Glossed m) (hkind : n.kind = "template_string") :
    List.Forall₂ (UrlPiece.Alike Glossed) n.templatePieces m.templatePieces := by
  have hchildren := h.children (by rw [hkind]; decide)
  obtain ⟨hcommented, -, -⟩ := h
  cases hcommented with
  | mk _ _ _ _ _ _ _ _ _ fixed =>
    refine templatePiecesFrom_rel (fun _ _ hcd => hcd.kind_eq) (fun c d hcd hsub => ?_) hchildren
      (fixed hkind)
    exact hcd.firstNamed?_rel (by rw [hsub]; decide)

theorem sameText_role? (h : n.Glossed m) {field : String} (hword : (n.kind, field) ∈ wordRoles) :
    Option.Rel SameText (n.role? field) (m.role? field) := by
  refine rel_imp (h.role?_rel (not_taking_of_plain (isPlainKind_of_word hword)) field)
    fun c d hc hcd => hcd.text_eq (.inl ?_)
  exact h.words.self.roles _ hword rfl c hc

/-- Whether an object is `JSON` can be seen in both trees. -/
theorem isJson_eq (h : n.Glossed m) (htakes : takesComments n.kind = false) :
    (textOf (n.role? "object") == "JSON") = (textOf (m.role? "object") == "JSON") := by
  have hrel := h.role?_rel htakes "object"
  have hn := h.words.self.json
  have hm := h.words'.self.json
  generalize n.role? "object" = x, m.role? "object" = y at hrel hn hm ⊢
  cases hrel with
  | none => rfl
  | @some c d hcd =>
    rw [Bool.eq_iff_iff, beq_iff_eq, beq_iff_eq]
    constructor
    · intro hc
      exact (hcd.text_eq (.inl (hn c rfl hc))).symm.trans hc
    · intro hd
      exact (hcd.text_eq (.inr (hm d rfl hd))).trans hd

theorem stringifies_eq (h : n.Glossed m) (hkind : n.kind = "call_expression") :
    n.stringifies = m.stringifies := by
  refine any?_eq (h.role?_rel (by rw [hkind]; decide) "function") fun c d hcd => ?_
  rw [← hcd.kind_eq]
  by_cases hmember : c.kind = "member_expression"
  · rw [hcd.isJson_eq (by rw [hmember]; decide),
      textOf_eq (hcd.sameText_role? (by rw [hmember]; decide))]
  · simp only [beq_eq_false_iff_ne.2 hmember, Bool.false_and]

theorem payload?_rel (h : n.Glossed m) (hkind : n.kind = "call_expression")
    (hstringifies : n.stringifies = true) : Option.Rel Glossed n.payload? m.payload? := by
  obtain ⟨hcommented, hn, hm⟩ := h
  have hrel : Option.Rel (Commented false) n.payload? m.payload? := by
    cases hcommented with
    | mk _ _ _ _ _ _ _ payload => exact payload rfl hkind hstringifies
  have hp : ∀ p, n.payload? = some p → p.Every Worded := fun p => hn.payload?
  have hq : ∀ q, m.payload? = some q → q.Every Worded := fun q => hm.payload?
  generalize n.payload? = x, m.payload? = y at hrel hp hq ⊢
  cases hrel with
  | none => exact .none
  | @some p q hpq => exact .some ⟨hpq, hp p rfl, hq q rfl⟩

end Node.Glossed

/-- Comments that do not come first keep trees alike. -/
theorem glossed_likeness : Likeness false Node.Glossed where
  kind h := h.kind_eq
  named h := h.named_eq
  text h hkind := h.text_eq (.inl (h.words.self.kinds hkind))
  children h hkind := h.children (not_taking_of_plain hkind)
  role h hkind := h.role?_rel (not_taking_of_plain hkind)
  word h hword := h.sameText_role? hword
  keyword h hkind :=
    rel_imp (rel_head? (h.children (by rw [hkind]; decide))) fun c _ hc hcd =>
      hcd.text_eq (.inl (h.words.self.keyword hkind c hc))
  below h := h.children_matched
  inner h hkind := by
    refine h.firstNamed?_rel fun harguments => ?_
    rw [harguments] at hkind
    exact absurd hkind (by decide)
  template h hkind := h.templatePieces_rel hkind
  stringifies h hkind := h.stringifies_eq hkind
  payload h hkind hstringifies := h.payload?_rel hkind hstringifies
  arguments h _ := h.arguments_rel

/-- Comments between brackets, none of them before the first named node of brackets, a substitution
or the arguments of `JSON.stringify`, leave the requests of a program as they are.  However
many calls can be nested, the search for them breaks off where it did before, and more often only if
a pattern is as deep as can be. -/
theorem Node.requests_commented {root root' : Node} (h : root.Commented false root')
    (hwords : root.Every Worded) (hwords' : root'.Every Worded) :
    root'.observations.map Observation.request = root.observations.map Observation.request ∧
      ∀ limit, 1 ≤ limit → (root.tooDeep limit = true → root'.tooDeep limit = true) ∧
        (root.hasDeepPattern limit = false →
          root'.tooDeep (limit + 1) = root.tooDeep (limit + 1)) := by
  have hroot : root.Glossed root' := ⟨h, hwords, hwords'⟩
  have hlike := glossed_likeness
  have hcalls := hlike.framedCalls_rel hroot
  have hkept : ∀ call : FramedCall, false = true →
      ∀ frame ∈ call.frames, (frame.map Binding.name).Nodup := by
    intro _ hfree
    cases hfree
  have hdeepUrl : ∀ limit, root.framedCalls.any (FramedCall.hasDeepUrl limit) =
      root'.framedCalls.any (FramedCall.hasDeepUrl limit) :=
    fun limit => hcalls.any_eq fun c _ d hcd => hlike.hasDeepUrl_eq hcd (hkept c) limit
  refine ⟨?_, fun limit hlimit => ⟨?_, ?_⟩⟩
  · rw [observations_eq_framedCalls, observations_eq_framedCalls, List.map_filterMap,
      List.map_filterMap]
    symm
    exact filterMap_eq hcalls.forall₂ fun c d hcd => (hlike.observed?_request hcd (hkept c)).symm
  · rw [tooDeep_eq_framedCalls, tooDeep_eq_framedCalls, hdeepUrl, Bool.or_eq_true, Bool.or_eq_true]
    exact Or.imp_left (hlike.hasDeepPattern_right hlimit hroot)
  · intro hshallow
    have hafter : root'.hasDeepPattern (limit + 1) = false := by
      rw [Bool.eq_false_iff] at hshallow ⊢
      exact fun hdeep => hshallow
        (hlike.hasDeepPattern_left 1 (fun _ _ _ _ => .inl le_rfl) hlimit hroot hdeep)
    have hbefore : root.hasDeepPattern (limit + 1) = false := by
      rw [Bool.eq_false_iff] at hafter ⊢
      exact fun hdeep => hafter (hlike.hasDeepPattern_right (Nat.le_add_left 1 limit) hroot hdeep)
    rw [tooDeep_eq_framedCalls, tooDeep_eq_framedCalls, hdeepUrl, hafter, hbefore]

namespace Node

/-- Comments below a node that is not read as a whole. -/
theorem Commented.within {anywhere : Bool} {label : Label} {children children' : List Node}
    (hcall : label.kind ≠ "call_expression") (htemplate : label.kind ≠ "template_string")
    (each : List.Forall₂ (Commented anywhere) children children') :
    (Node.mk label children).Commented anywhere (Node.mk label children') :=
  .mk rfl rfl rfl each (.refl _) (.inl rfl) (fun _ _ => rfl) (fun _ hkind => absurd hkind hcall)
    (fun _ => rfl) fun hkind => absurd hkind htemplate

/-- Comments put between the brackets of a node. -/
theorem Commented.inside {anywhere : Bool} {label : Label} {children children' : List Node}
    (htakes : takesComments label.kind = true) (inserted : Interspersed children children')
    (first : anywhere = false → label.kind ≠ "arguments" →
      (children.filter Node.named).head? = (children'.filter Node.named).head?) :
    (Node.mk label children).Commented anywhere (Node.mk label children') := by
  have hne : ∀ kind, takesComments kind = false → label.kind ≠ kind := by
    rintro _ hkind rfl
    exact absurd (htakes.symm.trans hkind) (by decide)
  have hsame : List.Forall₂ (Commented anywhere) children children :=
    List.forall₂_same.2 fun child _ => .refl child
  exact .mk rfl rfl rfl hsame inserted (.inr htakes) first
    (fun _ hkind => absurd hkind (hne _ (by decide))) (fun _ => rfl)
    fun hkind => absurd hkind (hne _ (by decide))

def remark : Node :=
  wordNode "comment" none "/* c */"

theorem remark_isComment : remark.IsComment :=
  ⟨rfl, rfl, rfl⟩

/-- Brackets around `'/api/a'` and the other nodes, as the value of a declaration. -/
def bracketedValue (before after : List Node) : Node :=
  .mk { kind := "parenthesized_expression", field := some "value" }
    (before ++ .mk { kind := "string" } [wordNode "string_fragment" none "/api/a"] :: after)

/-- A list of arguments that ends in `url`. -/
def urlArguments (before : List Node) : Node :=
  .mk { kind := "arguments", field := some "arguments" }
    (before ++ [wordNode "identifier" none "url"])

/-- The program `const url = value; fetch(arguments)`. -/
def fetchingProgram (value arguments : Node) : Node :=
  .mk { kind := "program" } [.mk { kind := "lexical_declaration" }
    [wordNode "const" (some "kind") "const",
      .mk { kind := "variable_declarator" } [wordNode "identifier" (some "name") "url", value]],
    .mk { kind := "expression_statement" } [.mk { kind := "call_expression" }
      [wordNode "identifier" (some "function") "fetch", arguments]]]

theorem fetchingProgram_commented {anywhere : Bool} {value value' arguments arguments' : Node}
    (hvalue : value.Commented anywhere value')
    (harguments : arguments.Commented anywhere arguments') :
    (fetchingProgram value arguments).Commented anywhere (fetchingProgram value' arguments') := by
  refine .within (by decide) (by decide) (.cons ?_ (.cons ?_ .nil))
  · refine .within (by decide) (by decide) (.cons (.refl _) (.cons ?_ .nil))
    exact .within (by decide) (by decide) (.cons (.refl _) (.cons hvalue .nil))
  · refine .within (by decide) (by decide) (.cons ?_ .nil)
    exact .mk rfl rfl rfl (.cons (.refl _) (.cons harguments .nil)) (.refl _) (.inl rfl)
      (fun _ _ => rfl) (fun _ _ hstringifies => absurd hstringifies Bool.false_ne_true)
      (fun _ => rfl) fun hkind => absurd hkind (by decide)

/-- Comments change nothing in `const url = ('/api/a' /* c */); fetch(/* c */ url)`. -/
theorem requests_trailingRemark :
    (fetchingProgram (bracketedValue [] []) (urlArguments [])).observations.map Observation.url =
        ["/api/a"] ∧
      (fetchingProgram (bracketedValue [] [remark]) (urlArguments [remark])).observations.map
          Observation.request =
        (fetchingProgram (bracketedValue [] []) (urlArguments [])).observations.map
          Observation.request ∧
      (fetchingProgram (bracketedValue [] [remark]) (urlArguments [remark])).tooDeep 9 = false := by
  have hvalue : (bracketedValue [] []).Commented false (bracketedValue [] [remark]) :=
    .inside (by decide) (.keep (.comment remark_isComment .nil)) fun _ _ => rfl
  have harguments : (urlArguments []).Commented false (urlArguments [remark]) :=
    .inside (by decide) (.comment remark_isComment (.refl _)) fun _ hkind => absurd rfl hkind
  obtain ⟨hrequests, hlimits⟩ := requests_commented (fetchingProgram_commented hvalue harguments)
    (by decide +kernel) (by decide +kernel)
  have hshallow : (fetchingProgram (bracketedValue [] []) (urlArguments [])).tooDeep 9 = false := by
    decide +kernel
  have hdeep := (hlimits 8 (by decide)).2 (by decide +kernel)
  exact ⟨by decide +kernel, hrequests, hdeep.trans hshallow⟩

/-- A comment before the expression hides it: `const url = (/* c */ '/api/a'); fetch(url)`. -/
theorem observations_leadingRemark :
    (fetchingProgram (bracketedValue [] []) (urlArguments [])).Commented true
        (fetchingProgram (bracketedValue [remark] []) (urlArguments [])) ∧
      (fetchingProgram (bracketedValue [] []) (urlArguments [])).Every Worded ∧
      (fetchingProgram (bracketedValue [remark] []) (urlArguments [])).Every Worded ∧
      (fetchingProgram (bracketedValue [] []) (urlArguments [])).observations.map Observation.url =
        ["/api/a"] ∧
      (fetchingProgram (bracketedValue [remark] []) (urlArguments [])).tooDeep 9 = false ∧
      (fetchingProgram (bracketedValue [remark] []) (urlArguments [])).observations.map
        Observation.url = [] := by
  have hvalue : (bracketedValue [] []).Commented true (bracketedValue [remark] []) :=
    .inside (by decide) (.comment remark_isComment (.refl _)) nofun
  exact ⟨fetchingProgram_commented hvalue (.refl _), by decide +kernel, by decide +kernel,
    by decide +kernel, by decide +kernel, by decide +kernel⟩

end Node

end RouteCensus
