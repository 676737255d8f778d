import RecordFilter.Proofs.Order

/-!
# The depth of paths

The segments of a path may lead along any number of links, round and round in a catalog with
cycles. A walk crosses them too, but no more than the settings allow, so every path comes to an end
and none registers more than a few joins (`Resolver.depth_bounded`).
-/

namespace RecordFilter

open Sql (Join Joins)

/-! ## The number of joins -/

theorem Link.length_joins (parent : String) (l : Link) : (l.joins parent).length ≤ 2 := by
  cases l <;> simp [joins]

theorem Link.length_joinsAlong (parent : String) (links : List Link) :
    (joinsAlong parent links).length ≤ 2 * links.length := by
  induction links generalizing parent with
  | nil => simp [joinsAlong]
  | cons l links ih =>
    have hl := l.length_joins parent
    have hs := ih (l.aliasUnder parent)
    rw [joinsAlong, List.length_append, List.length_cons]
    omega

theorem Root.length_joinsAt (name : String) (r : Root) : (r.joinsAt name).length ≤ 1 := by
  cases r <;> simp [joinsAt]

/-- A root needs one join and a link two. -/
theorem Route.length_joins (r : Route) : r.joins.length ≤ 2 * r.hops + 1 := by
  have hr := r.root.length_joinsAt r.root.firstAlias
  have hl := Link.length_joinsAlong r.root.firstAlias r.links
  rw [joins, List.length_append, hops]
  omega

theorem Sql.Joins.length_registerAll {js ks : Joins} {new : List Join}
    (h : js.registerAll new = .ok ks) : ks.length ≤ js.length + new.length := by
  induction new generalizing js with
  | nil => cases h; simp
  | cons j new ih =>
    obtain ⟨isNew, mid, hr, h⟩ := registerAll_cons h
    have hmid : mid.length ≤ js.length + 1 := by
      rw [register_eq_ok hr]
      split <;> simp
    have hks := ih h
    rw [List.length_cons]
    omega

namespace Plan

variable {s : Scope} {path segment next : String} {r r' : Route} {root : Root} {l : Link}
  {segments after rest left : List String}

theorem Crosses.hops_le (h : Crosses s r segments r' left) : r.hops ≤ r'.hops := by
  induction h with
  | refl => exact Nat.le_refl _
  | cross _ _ ih =>
    rw [Route.hops_cross] at ih
    omega

theorem Crosses.exceeds {n : Nat} (h : Crosses s r segments r' left) (hr : r.hops ≤ n)
    (hn : n < r'.hops) :
    ∃ r₁ segment next rest l, Crosses s r segments r₁ (segment :: next :: rest) ∧
      r₁.hops = n ∧ Leads s r₁ segment (next :: rest) l := by
  induction h with
  | refl => omega
  | @cross r r' segment next rest left l hl hs ih =>
    rcases Nat.eq_or_lt_of_le hr with hr | hr
    · exact ⟨r, segment, next, rest, l, .refl _ _, hr, hl⟩
    · obtain ⟨r₁, segment', next', rest', l', hs', h⟩ := ih (by rw [Route.hops_cross]; omega) hn
      exact ⟨r₁, segment', next', rest', l', .cross hl hs', h⟩

/-! ## Walks -/

theorem walk_of_leads (hl : Leads s r segment (next :: rest) l) :
    walk s path r (segment :: next :: rest) =
      if s.maxHops ≤ r.hops then along r [] (.error (.tooDeep path s.maxHops))
      else walk s path (r.cross l) (next :: rest) := by
  rw [walk, turn_eq_link_iff.2 hl]

/-- A walk crosses what its segments cross, up to the depth that is allowed. -/
theorem Crosses.walk_eq (h : Crosses s r segments r' left) (hd : r'.hops ≤ s.maxHops) :
    walk s path r segments = walk s path r' left := by
  induction h with
  | refl => rfl
  | @cross r r' segment next rest left l hl hs ih =>
    have hlt : ¬ s.maxHops ≤ r.hops := by
      have hle := hs.hops_le
      rw [Route.hops_cross] at hle
      omega
    rw [walk_of_leads hl, if_neg hlt, ih hd]

/-- A walk that leads along one more link fails, whatever comes after. -/
theorem Crosses.walk_tooDeep (h : Crosses s r segments r' (segment :: next :: rest))
    (hd : r'.hops = s.maxHops) (hl : Leads s r' segment (next :: rest) l) :
    walk s path r segments = along r' [] (.error (.tooDeep path s.maxHops)) := by
  rw [h.walk_eq (Nat.le_of_eq hd), walk_of_leads hl, if_pos (Nat.le_of_eq hd.symm)]

theorem Ends.along_eq {p : Plan} (h : Ends s r rest p) :
    ∃ extra outcome, p = along r extra outcome ∧ extra.length ≤ 1 := by
  cases h with
  | fails e => exact ⟨_, _, rfl, Nat.zero_le 1⟩
  | nothing => exact ⟨_, _, rfl, Nat.zero_le 1⟩
  | reads how => exact ⟨_, _, rfl, by cases how <;> simp [Reading.joins, eachItems]⟩

/-- A plan joins the root, two for each link and the items of a field. -/
theorem length_joins_ofPath (s : Scope) (path : String) :
    (ofPath s path).joins.length ≤ 2 * s.maxHops + 2 := by
  have hk := kind_ofPath s path
  generalize ofPath s path = p at hk
  cases hk with
  | fail | constant | bound => exact Nat.zero_le _
  | @below root rest =>
    obtain ⟨r, left, rest', -, hd, -, he⟩ := crosses_below s path root rest
    obtain ⟨extra, outcome, hp, hx⟩ := he.along_eq
    have hr := r.length_joins
    rw [hp, along, List.length_append]
    omega
  | items => simp [submittedItems]

theorem below_tooDeep (hc : ∀ segment ∈ rest.dropLast, ':' ∉ segment.toList)
    (h : Crosses s ⟨root, []⟩ rest r (segment :: next :: after)) (hd : r.hops = s.maxHops)
    (hl : Leads s r segment (next :: after) l) :
    below s path root rest = along r [] (.error (.tooDeep path s.maxHops)) := by
  have hcolon : rest.dropLast.any hasColon = false := by simpa [hasColon] using hc
  have hempty : rest.isEmpty = false := by
    cases rest with
    | nil => cases h
    | cons => rfl
  unfold below
  rw [hempty, hcolon]
  exact h.walk_tooDeep hd hl

theorem hops_le_of_below {o : Outcome} (ho : (below s path root rest).outcome = .ok o)
    (h : Crosses s ⟨root, []⟩ rest r left) : r.hops ≤ s.maxHops := by
  by_contra hd
  obtain ⟨r₁, segment, next, after, l, hc, hn, hl⟩ :=
    h.exceeds (Nat.zero_le s.maxHops) (Nat.lt_of_not_le hd)
  unfold below at ho
  split at ho
  · cases ho
  · rw [hc.walk_tooDeep hn hl] at ho
    cases ho

end Plan

/-! ## Resolved paths -/

namespace Resolver

open Plan (Starts Crosses Leads)

variable {r : Resolver} {path : String} {res : Resolution}

/-- A path that resolves registers the joins of the links that it crosses, at most as many as it
may, and at most one join more. -/
theorem crosses_of_resolve {root : Root} {rest : List String}
    (h : (r.resolve path).1 = .ok res) (hs : Starts r.scope path root rest) :
    ∃ route left extra, Crosses r.scope ⟨root, []⟩ rest route left ∧
      route.hops ≤ r.scope.maxHops ∧ extra.length ≤ 1 ∧
      r.joins.registerAll (route.joins ++ extra) = .ok (r.resolve path).2.joins := by
  obtain ⟨-, hj, -⟩ := resolved_cases h
  rw [Plan.ofPath_of_starts hs] at hj
  obtain ⟨route, left, rest', hc, hd, -, he⟩ := Plan.crosses_below r.scope path root rest
  obtain ⟨extra, outcome, hp, hx⟩ := he.along_eq
  rw [hp] at hj
  exact ⟨route, left, extra, hc, hd, hx, hj⟩

theorem hops_le_of_resolve {root : Root} {rest left : List String} {route : Route}
    (h : (r.resolve path).1 = .ok res) (hs : Starts r.scope path root rest)
    (hc : Crosses r.scope ⟨root, []⟩ rest route left) : route.hops ≤ r.scope.maxHops := by
  obtain ⟨-, -, o, ho, -⟩ := resolved_cases h
  rw [Plan.ofPath_of_starts hs] at ho
  exact Plan.hops_le_of_below ho hc

theorem length_joins_of_resolve (h : (r.resolve path).1 = .ok res) :
    (r.resolve path).2.joins.length ≤ r.joins.length + (2 * r.scope.maxHops + 2) := by
  obtain ⟨-, hj, -⟩ := resolved_cases h
  have hn := Plan.length_joins_ofPath r.scope path
  have hl := Joins.length_registerAll hj
  omega

/-- A path that leads along more links than it may fails. -/
theorem resolve_tooDeep {root : Root} {rest after : List String} {route : Route}
    {segment next : String} {l : Link} {joins : Joins}
    (hw : Path.isWellFormed path = true) (ha : r.allowed.admits path = true)
    (hs : Starts r.scope path root rest) (hn : ∀ segment ∈ rest.dropLast, ':' ∉ segment.toList)
    (hc : Crosses r.scope ⟨root, []⟩ rest route (segment :: next :: after))
    (hd : route.hops = r.scope.maxHops) (hl : Leads r.scope route segment (next :: after) l)
    (hj : r.joins.registerAll route.joins = .ok joins) :
    (r.resolve path).1 = .error (.tooDeep path r.scope.maxHops) := by
  obtain ⟨-, -, hr⟩ := (resolve_cases r path).resolve_left fun h => h.2 ⟨hw, ha⟩
  rw [hr, Plan.ofPath_of_starts hs, Plan.below_tooDeep hn hc hd hl]
  simp [commit, Plan.along, hj]

/-- Whatever the catalog, a resolver under settings has a depth of one to six links. A path that
resolves crosses no more of them and adds two joins for each and two more at most. A path that
leads along one more fails as too deep, however it goes on, if it may be used and its root and the
links before register. -/
theorem depth_bounded {r₀ : Resolver} {st : Settings} (hs : Steps (r₀.withSettings st) r) :
    (r.scope.maxHops = st.pathDepth ∧ 1 ≤ st.pathDepth ∧ st.pathDepth ≤ 6) ∧
      (∀ path res, (r.resolve path).1 = .ok res →
        (r.resolve path).2.joins.length ≤ r.joins.length + (2 * st.pathDepth + 2) ∧
          ∀ root rest, Starts r.scope path root rest →
            (∃ route left extra, Crosses r.scope ⟨root, []⟩ rest route left ∧
              route.hops ≤ st.pathDepth ∧ extra.length ≤ 1 ∧
              r.joins.registerAll (route.joins ++ extra) = .ok (r.resolve path).2.joins) ∧
            ∀ route left, Crosses r.scope ⟨root, []⟩ rest route left →
              route.hops ≤ st.pathDepth) ∧
      ∀ path root rest route segment next after l joins,
        Path.isWellFormed path = true → r.allowed.admits path = true →
        Starts r.scope path root rest → (∀ segment ∈ rest.dropLast, ':' ∉ segment.toList) →
        Crosses r.scope ⟨root, []⟩ rest route (segment :: next :: after) →
        route.hops = st.pathDepth → Leads r.scope route segment (next :: after) l →
        r.joins.registerAll route.joins = .ok joins →
        (r.resolve path).1 = .error (.tooDeep path st.pathDepth) := by
  have hd : r.scope.maxHops = st.pathDepth := by rw [scope_steps hs]; rfl
  rw [← hd]
  refine ⟨⟨rfl, hd ▸ st.pathDepth_range⟩, ?_, ?_⟩
  · intro path res h
    exact ⟨length_joins_of_resolve h, fun root rest hstarts =>
      ⟨crosses_of_resolve h hstarts, fun route left => hops_le_of_resolve h hstarts⟩⟩
  · intro path root rest route segment next after l joins hw ha hstarts hn hc hhops hl hj
    exact resolve_tooDeep hw ha hstarts hn hc hhops hl hj

def nested : Definitions :=
  { collections :=
      [{ name := "categories", fields :=
          [{ name := "parent", type := .relation, collection := some "categories" },
            { name := "name", type := .text }] }] }

def nestedCatalog : Catalog := nested.toCatalog.toOption.getD default

def categories : Collection := (nestedCatalog.find? "categories").getD default

def shallow : Resolver :=
  Resolver.withSettings { scope := { catalog := nestedCatalog, base := categories } } { depth := 0 }

set_option maxRecDepth 4000 in
/-- With a depth of one the parent of a category can be read, but not the parent of that one. -/
theorem depth_bounded_parents :
    nested.toCatalog = .ok nestedCatalog ∧
      (shallow.resolve "parent.name").1 = .ok { value := .column "categories_parent" "name" } ∧
      (shallow.resolve "parent.name").2.joins.length ≤ 0 + (2 * 1 + 2) ∧
      (shallow.resolve "parent.parent.name").1 = .error (.tooDeep "parent.parent.name" 1) := by
  have hs : Steps (Resolver.withSettings
      { scope := { catalog := nestedCatalog, base := categories } } { depth := 0 }) shallow := .refl
  obtain ⟨-, hbound, hdeep⟩ := depth_bounded hs
  refine ⟨rfl, rfl, (hbound "parent.name" _ rfl).1, ?_⟩
  refine hdeep "parent.parent.name" (.base categories) ["parent", "parent", "name"]
    ⟨.base categories, [.single categories "parent"]⟩ "parent" "name" []
    (.single categories "parent") _ rfl rfl ⟨by decide, ?_⟩ (by decide) ?_ rfl ?_ rfl
  · exact .base (by decide) (by decide)
  · exact .cross (Plan.turn_eq_link_iff.1 rfl) (.refl _ _)
  · exact Plan.turn_eq_link_iff.1 rfl

end Resolver

end RecordFilter
