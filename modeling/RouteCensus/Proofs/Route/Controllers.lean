import RouteCensus.Proofs.Text.Pieces
import RouteCensus.Route.Names

/-! # The controller of a route

A route is served by the controller of one of its segments: the first behind `api`,
or the second if the first is a version.  So whatever is asked for below this segment
has the same controller, and a version may be put in front of it.  A segment counts
as a version also if a line feed ends it.  Where it is the last one of a route, what
comes below it has a controller of its own.
-/

namespace RouteCensus.Route

def apiSegment : List Char :=
  "api".toList

/-- The letter of a version, and then digits. -/
def IsVersion (segment : List Char) : Prop :=
  ∃ c digits, (c = 'v' ∨ c = 'V') ∧ digits ≠ [] ∧
    (∀ d ∈ digits, Text.isDecimalDigit d = true) ∧ segment = c :: digits

/-- A version with a line feed at its end. -/
def IsBrokenVersion (segment : List Char) : Prop :=
  ∃ version, IsVersion version ∧ segment = version ++ ['\n']

/-- The segment that comes directly behind the first `api`. -/
def IsNext (segments : List (List Char)) (next : List Char) : Prop :=
  ∃ before rest, apiSegment ∉ before ∧ segments = before ++ apiSegment :: next :: rest

/-- The segment behind the first `api`, and behind a version if one follows it directly. -/
inductive IsResource (version : List Char → Prop) : List (List Char) → List Char → Prop where
  | next {segments : List (List Char)} {name : List Char} (h : IsNext segments name)
    (hname : ¬ version name) : IsResource version segments name
  | behind {before rest : List (List Char)} {first name : List Char} (hbefore : apiSegment ∉ before)
    (hfirst : version first) :
    IsResource version (before ++ apiSegment :: first :: name :: rest) name

section Versions

theorem IsVersion.ne_nil {segment : List Char} (h : IsVersion segment) : segment ≠ [] := by
  obtain ⟨c, digits, -, -, -, rfl⟩ := h
  exact List.cons_ne_nil c digits

theorem IsVersion.not_mem {segment : List Char} (h : IsVersion segment) {c : Char}
    (hletter : c ≠ 'v' ∧ c ≠ 'V') (hdigit : Text.isDecimalDigit c = false) : c ∉ segment := by
  obtain ⟨letter, digits, hv, -, hdigits, rfl⟩ := h
  rw [List.mem_cons, not_or]
  constructor
  · rintro rfl
    exact hv.elim hletter.1 hletter.2
  · intro hmem
    exact absurd (hdigits c hmem) (by simp [hdigit])

theorem isVersion_cons (c : Char) (rest : List Char) :
    isVersion (c :: rest) = ((c == 'v' || c == 'V') &&
      !(rest.takeWhile Text.isDecimalDigit).isEmpty &&
        (rest.dropWhile Text.isDecimalDigit == [] ||
          rest.dropWhile Text.isDecimalDigit == ['\n'])) :=
  rfl

/-- What is taken for a version: a version, or one with a line feed at its end. -/
theorem isVersion_iff (segment : List Char) :
    isVersion segment = true ↔ IsVersion segment ∨ IsBrokenVersion segment := by
  cases segment with
  | nil => simp [isVersion, IsVersion, IsBrokenVersion]
  | cons c rest =>
    simp only [isVersion_cons, Bool.and_eq_true, Bool.or_eq_true, beq_iff_eq, Bool.not_eq_true',
      List.isEmpty_eq_false_iff]
    constructor
    · rintro ⟨⟨hc, hdigits⟩, hrest⟩
      have hsplit := List.takeWhile_append_dropWhile (p := Text.isDecimalDigit) (l := rest)
      have hall : ∀ d ∈ rest.takeWhile Text.isDecimalDigit, Text.isDecimalDigit d = true :=
        fun d hd => List.mem_takeWhile_imp hd
      rcases hrest with hrest | hrest
      · rw [hrest, List.append_nil] at hsplit
        exact .inl ⟨c, _, hc, hdigits, hall, by rw [hsplit]⟩
      · rw [hrest] at hsplit
        exact .inr ⟨_, ⟨c, _, hc, hdigits, hall, rfl⟩, by rw [List.cons_append, hsplit]⟩
    · rintro (⟨d, digits, hd, hne, hdigits, heq⟩ | ⟨_, ⟨d, digits, hd, hne, hdigits, rfl⟩, heq⟩)
      · obtain ⟨rfl, rfl⟩ := List.cons.inj heq
        rw [List.takeWhile_eq_self_iff.2 hdigits, List.dropWhile_eq_nil_iff.2 hdigits]
        exact ⟨⟨hd, hne⟩, .inl rfl⟩
      · rw [List.cons_append] at heq
        obtain ⟨rfl, rfl⟩ := List.cons.inj heq
        rw [List.takeWhile_append_of_pos hdigits, List.dropWhile_append_of_pos hdigits]
        exact ⟨⟨hd, by simp [hne]⟩, .inr rfl⟩

end Versions

section Segments

theorem segments_append (route rest : List Char) :
    segments (route ++ '/' :: rest) = segments route ++ segments rest := by
  rw [segments, List.splitOn_eq_splitOnP, List.splitOnP_append_cons _ _ rfl, List.filter_append]
  rfl

theorem segments_of_not_mem {segment : List Char} (h : '/' ∉ segment) :
    segments segment = [segment].filter fun s => !s.isEmpty := by
  rw [segments, List.splitOn_eq_singleton h]

theorem segments_apiSegment : segments apiSegment = [apiSegment] := by
  decide

end Segments

section Resources

variable {route : List Char} {before after : List (List Char)}

/-- The resource among the segments behind the first `api`. -/
def behindApi? : List (List Char) → Option (List Char)
  | [] => none
  | first :: more => if isVersion first then more.head? else some first

theorem dropWhile_before (hbefore : apiSegment ∉ before) (after : List (List Char)) :
    (before ++ apiSegment :: after).dropWhile (· != "api".toList) = apiSegment :: after := by
  have hskip : ∀ s ∈ before, (s != apiSegment) = true :=
    fun s hs => bne_iff_ne.2 fun heq => hbefore (heq ▸ hs)
  exact (List.dropWhile_append_of_pos hskip).trans
    (List.dropWhile_cons_of_neg (by simp [apiSegment]))

theorem resource?_of_segments (hbefore : apiSegment ∉ before)
    (h : segments route = before ++ apiSegment :: after) : resource? route = behindApi? after := by
  rw [resource?, h, dropWhile_before hbefore]
  cases after <;> rfl

theorem resource?_of_version {version : List Char} (hbefore : apiSegment ∉ before)
    (h : segments route = before ++ apiSegment :: version :: after)
    (hversion : isVersion version = true) : resource? route = after.head? := by
  rw [resource?_of_segments hbefore h, behindApi?, if_pos hversion]

theorem resource?_of_not_version (hbefore : apiSegment ∉ before)
    (h : segments route = before ++ apiSegment :: after)
    (hafter : ∀ next, after.head? = some next → ¬ isVersion next = true) :
    resource? route = after.head? := by
  rw [resource?_of_segments hbefore h]
  cases after with
  | nil => rfl
  | cons next rest =>
    rw [behindApi?, if_neg (hafter next rfl)]
    rfl

theorem resource?_of_not_mem (h : apiSegment ∉ segments route) : resource? route = none := by
  have hdrop : (segments route).dropWhile (· != "api".toList) = [] :=
    List.dropWhile_eq_nil_iff.2 fun s hs => bne_iff_ne.2 fun heq : s = apiSegment => h (heq ▸ hs)
  rw [resource?, hdrop]

theorem resource?_eq_some_iff {name : List Char} :
    resource? route = some name ↔
      IsResource (fun s => isVersion s = true) (segments route) name := by
  constructor
  · intro h
    by_cases hapi : apiSegment ∈ segments route
    · obtain ⟨before, after, hsegments, hbefore⟩ := List.eq_append_cons_of_mem hapi
      rw [resource?_of_segments hbefore hsegments] at h
      rw [hsegments]
      cases after with
      | nil => cases h
      | cons first more =>
        rw [behindApi?] at h
        split at h
        · next hfirst =>
          obtain ⟨rest, rfl⟩ := List.head?_eq_some_iff.1 h
          exact .behind hbefore hfirst
        · next hfirst =>
          obtain rfl := Option.some.inj h
          exact .next ⟨before, more, hbefore, rfl⟩ hfirst
    · rw [resource?_of_not_mem hapi] at h
      cases h
  · intro h
    generalize hsegments : segments route = segs at h
    cases h with
    | next hnext hname =>
      obtain ⟨before, rest, hbefore, rfl⟩ := hnext
      rw [resource?_of_segments hbefore hsegments, behindApi?, if_neg hname]
    | behind hbefore hfirst =>
      rw [resource?_of_version hbefore hsegments hfirst]
      rfl

theorem controllerName_of_some {route : String} {name : List Char}
    (h : resource? route.toList = some name) :
    controllerName route = titleCase (String.ofList name) := by
  rw [controllerName, h, Option.elim_some, titleCase, String.toList_ofList]

theorem controllerName_of_none {route : String} (h : resource? route.toList = none) :
    controllerName route = "Default" := by
  rw [controllerName, h]
  rfl

end Resources

section Below

variable {version : List Char → Prop} {segs : List (List Char)} {name : List Char}

theorem IsNext.append (h : IsNext segs name) (more : List (List Char)) :
    IsNext (segs ++ more) name := by
  obtain ⟨before, rest, hbefore, rfl⟩ := h
  exact ⟨before, rest ++ more, hbefore, by simp⟩

/-- What comes below a resource does not count. -/
theorem IsResource.append (h : IsResource version segs name) (more : List (List Char)) :
    IsResource version (segs ++ more) name := by
  cases h with
  | next h hname => exact .next (h.append more) hname
  | behind hbefore hfirst =>
    rw [List.append_assoc]
    exact .behind hbefore hfirst

/-- The segments end with a version that has a line feed at its end, directly behind `api`. -/
def EndsBroken (segs : List (List Char)) : Prop :=
  ∃ before broken, apiSegment ∉ before ∧ IsBrokenVersion broken ∧
    segs = before ++ [apiSegment, broken]

theorem IsResource.exists_of_not_endsBroken (h : IsResource IsVersion segs name)
    (hend : ¬ EndsBroken segs) : ∃ found, IsResource (fun s => isVersion s = true) segs found := by
  cases h with
  | next h hname =>
    by_cases hbroken : IsBrokenVersion name
    · obtain ⟨before, rest, hbefore, rfl⟩ := h
      cases rest with
      | nil => exact absurd ⟨before, name, hbefore, hbroken, rfl⟩ hend
      | cons below rest => exact ⟨below, .behind hbefore ((isVersion_iff name).2 (.inr hbroken))⟩
    · exact ⟨name, .next h fun hversion =>
        ((isVersion_iff name).1 hversion).elim hname hbroken⟩
  | behind hbefore hfirst => exact ⟨name, .behind hbefore ((isVersion_iff _).2 (.inl hfirst))⟩

theorem segments_below (route s : String) :
    segments (route ++ "/" ++ s).toList = segments route.toList ++ segments s.toList := by
  have hjoined : (route ++ "/" ++ s).toList = route.toList ++ '/' :: s.toList := by simp
  rw [hjoined, segments_append]

theorem controllerName_append {route : String}
    (h : IsResource (fun s => isVersion s = true) (segments route.toList) name) (s : String) :
    controllerName (route ++ "/" ++ s) = controllerName route := by
  have hbelow := h.append (segments s.toList)
  rw [← segments_below] at hbelow
  rw [controllerName_of_some (resource?_eq_some_iff.2 h),
    controllerName_of_some (resource?_eq_some_iff.2 hbelow)]

theorem controllerName_of_endsBroken {route : String} (h : EndsBroken (segments route.toList)) :
    controllerName route = "Default" ∧ controllerName (route ++ "/" ++ "x") = "X" := by
  obtain ⟨before, broken, hbefore, hbroken, hsegments⟩ := h
  have hversion := (isVersion_iff broken).2 (.inr hbroken)
  constructor
  · apply controllerName_of_none
    rw [resource?_of_version hbefore hsegments hversion]
    rfl
  · have hbelow : segments (route ++ "/" ++ "x").toList =
        before ++ apiSegment :: [broken, ['x']] := by
      rw [segments_below, hsegments, List.append_assoc]
      rfl
    rw [controllerName_of_some (resource?_of_version hbefore hbelow hversion)]
    decide

end Below

section Insertion

/-- The second route is the first one with a segment put in directly behind its first `api`. -/
inductive Inserts (new : List Char) : List Char → List Char → Prop where
  | intro {front back : List Char} (hfront : front = [] ∨ ∃ f, front = f ++ ['/'])
    (hback : back = [] ∨ ∃ b, back = '/' :: b) (hfirst : apiSegment ∉ segments front) :
    Inserts new (front ++ apiSegment ++ back) (front ++ apiSegment ++ '/' :: new ++ back)

theorem segments_front {front : List Char} (h : front = [] ∨ ∃ f, front = f ++ ['/'])
    (rest : List Char) : segments (front ++ rest) = segments front ++ segments rest := by
  rcases h with rfl | ⟨f, rfl⟩
  · rfl
  · rw [List.append_assoc, List.singleton_append, segments_append, segments_append]
    exact congrArg (· ++ _) (List.append_nil _).symm

theorem segments_back {back : List Char} (h : back = [] ∨ ∃ b, back = '/' :: b)
    (front : List Char) : segments (front ++ back) = segments front ++ segments back := by
  rcases h with rfl | ⟨b, rfl⟩
  · rw [List.append_nil]
    exact (List.append_nil _).symm
  · rw [segments_append]
    rfl

theorem Inserts.segments_eq {new route route' : List Char} (h : Inserts new route route')
    (hne : new ≠ []) (hslash : '/' ∉ new) :
    ∃ before after, apiSegment ∉ before ∧ segments route = before ++ apiSegment :: after ∧
      segments route' = before ++ apiSegment :: new :: after := by
  cases h with
  | @intro front back hfront hback hfirst =>
    refine ⟨segments front, segments back, hfirst, ?_, ?_⟩
    · rw [segments_back hback, segments_front hfront, segments_apiSegment, List.append_assoc]
      rfl
    · have hnew : segments new = [new] := by
        rw [segments_of_not_mem hslash]
        simp [hne]
      rw [segments_back hback, segments_append, segments_front hfront, segments_apiSegment, hnew,
        List.append_assoc, List.append_assoc]
      rfl

/-- The segment behind the first `api` is the first of those behind it. -/
theorem isNext_iff {before after : List (List Char)} {next : List Char}
    (hbefore : apiSegment ∉ before) :
    IsNext (before ++ apiSegment :: after) next ↔ after.head? = some next := by
  constructor
  · rintro ⟨before', rest, hbefore', h⟩
    have hafter := dropWhile_before hbefore after
    rw [h, dropWhile_before hbefore'] at hafter
    rw [← (List.cons.inj hafter).2]
    rfl
  · intro h
    obtain ⟨rest, rfl⟩ := List.head?_eq_some_iff.1 h
    exact ⟨before, rest, hbefore, rfl⟩

end Insertion

/-- Whatever comes below the resource of a route has its controller, and a version that is put in
front of the resource does not change the controller.  Both fail only for a version that has a line
feed at its end: it is skipped where it comes first, and taken for the resource where a version
comes before it. -/
theorem controllerName_below (route : String) :
    (∀ name, IsResource IsVersion (segments route.toList) name →
      ((∀ s, controllerName (route ++ "/" ++ s) = controllerName route) ↔
        ¬ EndsBroken (segments route.toList))) ∧
    ∀ version route', IsVersion version → Inserts version route.toList route'.toList →
      (∀ next, IsNext (segments route.toList) next → ¬ IsVersion next) →
        ((∀ next, IsNext (segments route.toList) next → ¬ IsBrokenVersion next) →
          controllerName route' = controllerName route) ∧
        ∀ next, IsNext (segments route.toList) next → IsBrokenVersion next →
          controllerName route' = titleCase (String.ofList next) := by
  constructor
  · intro name hname
    constructor
    · intro hall hbroken
      obtain ⟨hroute, hbelow⟩ := controllerName_of_endsBroken hbroken
      rw [hall, hroute] at hbelow
      exact absurd hbelow (by decide)
    · intro hend s
      obtain ⟨found, hfound⟩ := hname.exists_of_not_endsBroken hend
      exact controllerName_append hfound s
  · intro version route' hversion hinserts hplain
    obtain ⟨before, after, hbefore, hroute, hroute'⟩ := hinserts.segments_eq hversion.ne_nil
      (hversion.not_mem (by decide) (by decide))
    have hnew : resource? route'.toList = after.head? :=
      resource?_of_version hbefore hroute' ((isVersion_iff version).2 (.inl hversion))
    simp only [hroute, isNext_iff hbefore] at hplain ⊢
    constructor
    · intro hwhole
      have hsame : resource? route.toList = after.head? :=
        resource?_of_not_version hbefore hroute fun next hnext h =>
          ((isVersion_iff next).1 h).elim (hplain next hnext) (hwhole next hnext)
      rw [controllerName, controllerName, hnew, hsame]
    · intro next hnext _
      exact controllerName_of_some (hnew.trans hnext)

theorem isVersion_two : IsVersion "v2".toList :=
  ⟨'v', ['2'], .inl rfl, List.cons_ne_nil _ _, List.all_eq_true.1 (by decide), rfl⟩

/-- Below a versioned resource, and with a version put in front of empty segments. -/
theorem controllerName_orders :
    IsResource IsVersion (segments "/api/v2/orders".toList) "orders".toList ∧
      (∀ s, controllerName ("/api/v2/orders" ++ "/" ++ s) = controllerName "/api/v2/orders") ∧
      Inserts "v2".toList "/x/api//orders".toList "/x/api/v2//orders".toList ∧
      controllerName "/x/api/v2//orders" = controllerName "/x/api//orders" := by
  have horders : ¬ IsVersion "orders".toList ∧ ¬ IsBrokenVersion "orders".toList :=
    not_or.1 (mt (isVersion_iff _).2 (by decide))
  have hsegments : segments "/api/v2/orders".toList =
      [] ++ apiSegment :: "v2".toList :: "orders".toList :: [] := by decide
  have hresource : IsResource IsVersion (segments "/api/v2/orders".toList) "orders".toList := by
    rw [hsegments]
    exact .behind List.not_mem_nil isVersion_two
  have hend : ¬ EndsBroken (segments "/api/v2/orders".toList) := by
    rintro ⟨before, broken, -, hbroken, heq⟩
    have hlast := congrArg List.getLast? (hsegments.symm.trans heq)
    rw [List.getLast?_append, List.getLast?_append] at hlast
    obtain rfl : "orders".toList = broken := Option.some.inj hlast
    exact horders.2 hbroken
  have hinserts : Inserts "v2".toList ("/x/".toList ++ apiSegment ++ "//orders".toList)
      ("/x/".toList ++ apiSegment ++ '/' :: "v2".toList ++ "//orders".toList) :=
    .intro (.inr ⟨"/x".toList, rfl⟩) (.inr ⟨"/orders".toList, rfl⟩) (by decide)
  have hnext : ∀ next, IsNext (segments "/x/api//orders".toList) next →
      next = "orders".toList := by
    intro next h
    have hroute : segments "/x/api//orders".toList =
        ["x".toList] ++ apiSegment :: ["orders".toList] := by decide
    rw [hroute, isNext_iff (by decide)] at h
    exact (Option.some.inj h).symm
  refine ⟨hresource, ((controllerName_below _).1 _ hresource).2 hend, hinserts, ?_⟩
  exact ((controllerName_below "/x/api//orders").2 _ "/x/api/v2//orders" isVersion_two hinserts
    fun next h => hnext next h ▸ horders.1).1 fun next h => hnext next h ▸ horders.2

/-- A version that has a line feed at its end, where it is the last segment. -/
theorem controllerName_brokenVersion :
    IsResource IsVersion (segments "/api/v1\n".toList) "v1\n".toList ∧
      controllerName "/api/v1\n" = "Default" ∧
      controllerName ("/api/v1\n" ++ "/" ++ "users") = "Users" := by
  have hsegments : segments "/api/v1\n".toList = [] ++ apiSegment :: "v1\n".toList :: [] := by
    decide
  have hversion : ¬ IsVersion "v1\n".toList := fun h =>
    h.not_mem (c := '\n') (by decide) (by decide) (by decide)
  exact ⟨.next ⟨[], [], List.not_mem_nil, hsegments⟩ hversion, by decide, by decide⟩

end RouteCensus.Route
