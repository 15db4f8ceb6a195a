/-
**The walk that checks the limits.**

The limits of an input are checked by a walk that counts as it goes and stops at the first violation.
Depth and number of values have their own recursive definitions.  What joins the two is the list of the
depths of all values, each before its parts: the walk goes along this list, so that what it finds can
be read off the list without following the tree.

The walk can be done in any monad in which values can be entered.  To say how far it gets, it is done in
one that keeps a record of the values that it comes to.

Main definitions:

* `Json.parts`, `Json.depths` — the values directly within a value, and the depths of all values;
* `Limits.Tour` — the monad of walks with a record;
* `Limits.tour`, `Limits.tourList` — the walk with its record, through a tree and along a list;
* `Limits.Stops` — how a walk along a list ends;
* `Limits.Checks` — what the check of a tree finds.

Main results:

* `Json.parent_before` — the depth grows by one from a value to its parts, which come later;
* `Limits.tour_eq` — **the walk through a tree is the walk along its depths**;
* `Limits.stops_tourList` — how a walk ends;
* `Limits.checks_canonical` — **the check agrees with depth and number of values**, and stops in time.
-/

import Conform.Limits
import Conform.Proofs.Result
import Conform.Proofs.Value.Plain

set_option relaxedAutoImplicit false
set_option autoImplicit false

namespace Conform

/-! ### Parts -/

namespace Json

/-- The values directly within a value, in their order. -/
def parts : Json → List Json
  | .arr items => items
  | .obj members => members.map (·.2)
  | .null | .bool _ | .int _ | .big _ | .float _ | .str _ => []

/-- Induction over a document, from the parts to the whole. -/
theorem induct_parts {motive : Json → Prop} (whole : ∀ j, (∀ part ∈ j.parts, motive part) → motive j)
    (j : Json) : motive j := by
  induction j with
  | arr items ih => exact whole _ ih
  | obj members ih => exact whole _ (List.forall_mem_map.2 ih)
  | _ => exact whole _ (List.forall_mem_nil _)

theorem depthMembers_eq (members : List (String × Json)) :
    depthMembers members = depthItems (members.map (·.2)) := by
  induction members with
  | nil => rfl
  | cons member rest ih => rw [depthMembers, ih, List.map_cons, depthItems]

theorem sizeMembers_eq (members : List (String × Json)) :
    sizeMembers members = sizeItems (members.map (·.2)) := by
  induction members with
  | nil => rfl
  | cons member rest ih => rw [sizeMembers, ih, List.map_cons, sizeItems]

theorem depth_eq (j : Json) : j.depth = 1 + depthItems j.parts := by
  cases j with
  | obj members => rw [depth, depthMembers_eq, parts]
  | _ => rfl

theorem size_eq (j : Json) : j.size = 1 + sizeItems j.parts := by
  cases j with
  | obj members => rw [size, sizeMembers_eq, parts]
  | _ => rfl

/-! ### Depths -/

mutual

/-- The depths of the values in a tree that itself is at a depth, each before its parts. -/
def depths (depth : Nat) : Json → List Nat
  | .arr items => depth :: depthsItems (depth + 1) items
  | .obj members => depth :: depthsMembers (depth + 1) members
  | .null | .bool _ | .int _ | .big _ | .float _ | .str _ => [depth]

/-- The depths of the values in items at a depth. -/
def depthsItems (depth : Nat) : List Json → List Nat
  | [] => []
  | j :: rest => depths depth j ++ depthsItems depth rest

/-- The depths of the values in members at a depth. -/
def depthsMembers (depth : Nat) : List (String × Json) → List Nat
  | [] => []
  | (_, j) :: rest => depths depth j ++ depthsMembers depth rest

end

theorem depthsMembers_eq (depth : Nat) (members : List (String × Json)) :
    depthsMembers depth members = depthsItems depth (members.map (·.2)) := by
  induction members with
  | nil => rfl
  | cons member rest ih => rw [depthsMembers, ih, List.map_cons, depthsItems]

theorem depths_eq (depth : Nat) (j : Json) :
    j.depths depth = depth :: depthsItems (depth + 1) j.parts := by
  cases j with
  | obj members => rw [depths, depthsMembers_eq, parts]
  | _ => rfl

/-- There are as many depths as values. -/
theorem length_depths (j : Json) : ∀ depth, (j.depths depth).length = j.size := by
  induction j using induct_parts with
  | whole j ih =>
      intro depth
      rw [depths_eq, size_eq, List.length_cons, Nat.add_comm]
      congr 1
      generalize j.parts = parts at ih ⊢
      induction parts with
      | nil => rfl
      | cons part rest ihRest =>
          obtain ⟨hpart, hrest⟩ := List.forall_mem_cons.1 ih
          rw [depthsItems, sizeItems, List.length_append, hpart, ihRest hrest]

/-- A tree goes down to the greatest of its depths. -/
theorem forall_depths_le_iff (j : Json) : ∀ {depth greatest : ℕ},
    (∀ d ∈ j.depths depth, d ≤ greatest) ↔ depth + j.depth ≤ greatest + 1 := by
  induction j using induct_parts with
  | whole j ih =>
      intro depth greatest
      rw [depths_eq, depth_eq, List.forall_mem_cons]
      generalize j.parts = parts at ih ⊢
      have hparts : (∀ d ∈ depthsItems (depth + 1) parts, d ≤ greatest) ↔
          depthItems parts = 0 ∨ depth + 1 + depthItems parts ≤ greatest + 1 := by
        induction parts with
        | nil => simp [depthsItems, depthItems]
        | cons part rest ihRest =>
            obtain ⟨hpart, hrest⟩ := List.forall_mem_cons.1 ih
            have hpos : 0 < part.depth := by
              rw [depth_eq]
              omega
            rw [depthsItems, depthItems, List.forall_mem_append, hpart, ihRest hrest]
            omega
      rw [hparts]
      omega

/-- A value that is not the outermost one is one deeper than a value that comes before it. -/
theorem parent_before (j : Json) : ∀ {depth d : ℕ} {front rest : List ℕ},
    j.depths depth = front ++ d :: rest → d = depth ∨ ∃ e ∈ front, d = e + 1 := by
  induction j using induct_parts with
  | whole j ih =>
      intro depth d front rest h
      rw [depths_eq] at h
      generalize j.parts = parts at ih h
      have hparts : ∀ {front rest : List ℕ}, depthsItems (depth + 1) parts = front ++ d :: rest →
          d = depth + 1 ∨ ∃ e ∈ front, d = e + 1 := by
        clear h
        induction parts with
        | nil => simp [depthsItems]
        | cons part others ihOthers =>
            intro front rest h
            obtain ⟨hpart, hothers⟩ := List.forall_mem_cons.1 ih
            rw [depthsItems] at h
            obtain ⟨more, rfl, hmore⟩ | ⟨more, hfront, hmore⟩ := List.append_eq_append_iff.1 h
            · obtain hd | ⟨e, he, hd⟩ := ihOthers hothers hmore
              · exact .inl hd
              · exact .inr ⟨e, List.mem_append_right _ he, hd⟩
            · cases more with
              | nil =>
                  rw [List.append_nil] at hfront
                  have hfirst : depthsItems (depth + 1) others = [] ++ d :: rest := hmore.symm
                  obtain hd | ⟨e, he, -⟩ := ihOthers hothers hfirst
                  · exact .inl hd
                  · cases he
              | cons c more =>
                  obtain ⟨rfl, -⟩ := List.cons.inj hmore
                  exact hpart hfront
      cases front with
      | nil => exact .inl (List.cons.inj h).1.symm
      | cons e front =>
          rw [List.cons_append] at h
          obtain ⟨rfl, hbehind⟩ := List.cons.inj h
          right
          obtain rfl | ⟨e, he, hd⟩ := hparts hbehind
          · exact ⟨_, List.mem_cons_self .., rfl⟩
          · exact ⟨e, List.mem_cons_of_mem _ he, hd⟩

end Json

/-! ### The walk with a record -/

namespace Limits

/-- A walk with its record: the depths of the values that it comes to, and its result. -/
structure Tour (α : Type) where
  visited : List Nat
  outcome : Except Fault α

namespace Tour

/-- Goes on behind a walk, if it has not stopped. -/
def andThen {α β : Type} (tour : Tour α) (next : α → Tour β) : Tour β :=
  match tour.outcome with
  | .error fault => ⟨tour.visited, .error fault⟩
  | .ok a => ⟨tour.visited ++ (next a).visited, (next a).outcome⟩

instance : Monad Tour where
  pure a := ⟨[], .ok a⟩
  bind := andThen

variable {α β : Type}

@[simp] theorem outcome_pure (a : α) : (pure a : Tour α).outcome = .ok a := rfl

@[simp] theorem outcome_bind (tour : Tour α) (next : α → Tour β) :
    (tour >>= next).outcome = tour.outcome >>= fun a => (next a).outcome := by
  show (andThen tour next).outcome = _
  rw [andThen]
  cases tour.outcome <;> rfl

theorem pure_bind (a : α) (next : α → Tour β) : (pure a >>= next : Tour β) = next a := rfl

theorem bind_assoc {γ : Type} (tour : Tour α) (next : α → Tour β) (last : β → Tour γ) :
    (tour >>= next >>= last) = tour >>= fun a => next a >>= last := by
  obtain ⟨visited, outcome⟩ := tour
  cases outcome with
  | error fault => rfl
  | ok a =>
      show andThen (andThen _ next) last = andThen _ fun a => andThen (next a) last
      simp only [andThen]
      cases (next a).outcome with
      | error fault => rfl
      | ok b => simp only [List.append_assoc]

end Tour

/-- Comes to a value at a depth, and counts it. -/
def visit (limits : Limits) (depth seen : Nat) : Tour Nat :=
  ⟨[depth], limits.enter depth seen⟩

/-- The walk through a value, with its record. -/
def tour (limits : Limits) : Nat → Nat → Json → Tour (Nat × Nat) := walkWith limits.visit

section

variable {m : Type → Type} [Monad m] (enter : ℕ → ℕ → m ℕ)

theorem walkMembers_eq (members : List (String × Json)) : ∀ depth deepest seen,
    walkMembers enter depth deepest seen members =
      walkItems enter depth deepest seen (members.map (·.2)) := by
  induction members with
  | nil => exact fun _ _ _ => rfl
  | cons member rest ih =>
      intro depth deepest seen
      rw [walkMembers, List.map_cons, walkItems]
      exact congrArg _ (funext fun walked => ih ..)

theorem walkWith_eq (depth seen : ℕ) (j : Json) : walkWith enter depth seen j =
    enter depth seen >>= (walkItems enter (depth + 1) depth · j.parts) := by
  cases j with
  | obj members =>
      rw [walkWith]
      exact congrArg _ (funext fun seen => walkMembers_eq enter members ..)
  | _ => rfl

end

variable {limits : Limits}

/-- Without its record the walk is that of the check. -/
theorem outcome_tour (j : Json) : ∀ depth seen,
    (limits.tour depth seen j).outcome = limits.walk depth seen j := by
  induction j using Json.induct_parts with
  | whole j ih =>
      intro depth seen
      rw [tour, walk, walkWith_eq, walkWith_eq, Tour.outcome_bind]
      refine congrArg _ (funext fun seen => ?_)
      generalize j.parts = parts at ih ⊢
      generalize depth + 1 = below
      induction parts generalizing depth seen with
      | nil => rfl
      | cons part rest ihRest =>
          obtain ⟨hpart, hrest⟩ := List.forall_mem_cons.1 ih
          rw [walkItems, walkItems, Tour.outcome_bind]
          refine congr (congrArg _ (hpart below seen)) (funext fun (deep, seen) => ?_)
          exact ihRest (max depth deep) seen hrest

/-! ### The walk along a list of depths -/

/-- The walk along depths, with its record. -/
def tourList (limits : Limits) (seen : Nat) : List Nat → Tour Nat
  | [] => pure seen
  | depth :: rest => do
    let seen ← visit limits depth seen
    tourList limits seen rest

theorem tourList_append (front rest : List ℕ) : ∀ seen,
    limits.tourList seen (front ++ rest) =
      limits.tourList seen front >>= (limits.tourList · rest) := by
  induction front with
  | nil => exact fun _ => rfl
  | cons depth front ih =>
      intro seen
      rw [List.cons_append, tourList, tourList, Tour.bind_assoc]
      exact congrArg _ (funext fun seen => ih seen)

/-- The walk through items is the walk along their depths, if that through each of them is. -/
theorem walkItems_visit {depth : ℕ} {items : List Json} (h : ∀ j ∈ items, ∀ seen,
      limits.tour (depth + 1) seen j = limits.tourList seen (j.depths (depth + 1)) >>= fun seen =>
        pure (depth + j.depth, seen)) : ∀ {deepest : ℕ}, depth ≤ deepest → ∀ seen,
    walkItems limits.visit (depth + 1) deepest seen items =
      limits.tourList seen (Json.depthsItems (depth + 1) items) >>= fun seen =>
        pure (max deepest (depth + Json.depthItems items), seen) := by
  induction items with
  | nil =>
      intro deepest hle seen
      have hmax : max deepest (depth + Json.depthItems []) = deepest := Nat.max_eq_left hle
      rw [hmax]
      rfl
  | cons j rest ih =>
      intro deepest hle seen
      obtain ⟨hj, hrest⟩ := List.forall_mem_cons.1 h
      have hmax : max deepest (depth + Json.depthItems (j :: rest)) =
          max (max deepest (depth + j.depth)) (depth + Json.depthItems rest) := by
        rw [Json.depthItems]
        omega
      have hfirst : walkWith limits.visit (depth + 1) seen j = _ := hj seen
      rw [walkItems, hfirst, Json.depthsItems, tourList_append, Tour.bind_assoc, Tour.bind_assoc, hmax]
      refine congrArg _ (funext fun seen => ?_)
      rw [Tour.pure_bind]
      exact ih hrest (Nat.le_trans hle (Nat.le_max_left ..)) seen

/-- **The walk through a tree is the walk along its depths**; it finds the depth of the tree. -/
theorem tour_eq (j : Json) : ∀ depth seen, limits.tour depth seen j =
    limits.tourList seen (j.depths depth) >>= fun seen => pure (depth + j.depth - 1, seen) := by
  induction j using Json.induct_parts with
  | whole j ih =>
      intro depth seen
      rw [tour, walkWith_eq, Json.depths_eq, tourList, Tour.bind_assoc, Json.depth_eq]
      refine congrArg _ (funext fun seen => ?_)
      have hparts : ∀ part ∈ j.parts, ∀ seen, limits.tour (depth + 1) seen part =
          limits.tourList seen (part.depths (depth + 1)) >>= fun seen =>
            pure (depth + part.depth, seen) := by
        intro part hpart seen
        have hdepth : depth + 1 + part.depth - 1 = depth + part.depth := by omega
        rw [ih part hpart, hdepth]
      have hdepth : depth + (1 + Json.depthItems j.parts) - 1 =
          max depth (depth + Json.depthItems j.parts) := by omega
      rw [walkItems_visit hparts (Nat.le_refl depth), hdepth]

/-- How a walk along depths ends, if `seen` values were behind at first. -/
inductive Stops (limits : Limits) (seen : Nat) (depths : List Nat) : Tour Nat → Prop
  /-- at the end; no depth and no count is too great -/
  | atEnd (hdepths : ∀ d ∈ depths, d ≤ limits.depth) (hcount : seen + depths.length ≤ limits.nodes) :
      Stops limits seen depths ⟨depths, .ok (seen + depths.length)⟩
  /-- at the first depth that is too great -/
  | atDepth (front : List Nat) (d : Nat) (rest : List Nat) (heq : depths = front ++ d :: rest)
      (hfront : ∀ e ∈ front, e ≤ limits.depth) (hcount : seen + front.length ≤ limits.nodes)
      (hdepth : limits.depth < d) :
      Stops limits seen depths
        ⟨front ++ [d], .error (Fault.limitExceeded "depth" d limits.depth)⟩
  /-- at the first value that is one too many -/
  | atCount (front : List Nat) (d : Nat) (rest : List Nat) (heq : depths = front ++ d :: rest)
      (hfront : ∀ e ∈ front, e ≤ limits.depth) (hcount : seen + front.length = limits.nodes)
      (hdepth : d ≤ limits.depth) :
      Stops limits seen depths ⟨front ++ [d],
        .error (Fault.limitExceeded "node count" (limits.nodes + 1) limits.nodes)⟩

/-- A walk that comes past its first depth ends as it does behind it. -/
theorem Stops.cons {seen d : ℕ} {depths : List ℕ} {tour : Tour ℕ} (hdepth : d ≤ limits.depth)
    (h : Stops limits (seen + 1) depths tour) :
    Stops limits seen (d :: depths) ⟨d :: tour.visited, tour.outcome⟩ := by
  have hcons : ∀ {front : List ℕ}, (∀ e ∈ front, e ≤ limits.depth) →
      ∀ e ∈ d :: front, e ≤ limits.depth := fun hfront => List.forall_mem_cons.2 ⟨hdepth, hfront⟩
  have hlength : ∀ front : List ℕ, seen + 1 + front.length = seen + (d :: front).length := by
    intro front
    rw [List.length_cons]
    omega
  cases h with
  | atEnd hdepths hcount =>
      rw [hlength] at hcount ⊢
      exact .atEnd (hcons hdepths) hcount
  | atDepth front e rest heq hfront hcount hdeep =>
      rw [hlength] at hcount
      exact .atDepth (d :: front) e rest (congrArg (d :: ·) heq) (hcons hfront) hcount hdeep
  | atCount front e rest heq hfront hcount hkept =>
      rw [hlength] at hcount
      exact .atCount (d :: front) e rest (congrArg (d :: ·) heq) (hcons hfront) hcount hkept

/-- **How a walk along depths ends.** -/
theorem stops_tourList (depths : List ℕ) : ∀ {seen : ℕ}, seen ≤ limits.nodes →
    Stops limits seen depths (limits.tourList seen depths) := by
  induction depths with
  | nil => exact fun hseen => .atEnd (List.forall_mem_nil _) hseen
  | cons d rest ih =>
      intro seen hseen
      show Stops _ _ _ (Tour.andThen (limits.visit d seen) _)
      rw [Tour.andThen, visit, enter]
      by_cases hdepth : limits.depth < d
      · rw [if_pos hdepth]
        exact .atDepth [] d rest rfl (List.forall_mem_nil _) hseen hdepth
      · rw [if_neg hdepth]
        have hkept : d ≤ limits.depth := Nat.le_of_not_lt hdepth
        by_cases hcount : limits.nodes < seen + 1
        · have hfull : seen = limits.nodes := by omega
          rw [if_pos hcount, hfull]
          exact .atCount [] d rest rfl (List.forall_mem_nil _) rfl hkept
        · rw [if_neg hcount]
          exact (ih (Nat.le_of_not_lt hcount)).cons hkept

end Limits

/-! ### Depth and number of values -/

namespace Value

variable {items : List Json} {members : List (String × Json)}

theorem depthItems_map (h : ∀ j ∈ items, (ofJson j).depth = j.depth) :
    depthItems (items.map ofJson) = Json.depthItems items := by
  induction items with
  | nil => rfl
  | cons j rest ih =>
      obtain ⟨hj, hrest⟩ := List.forall_mem_cons.1 h
      rw [List.map_cons, depthItems, hj, ih hrest, Json.depthItems]

theorem sizeItems_map (h : ∀ j ∈ items, (ofJson j).size = j.size) :
    sizeItems (items.map ofJson) = Json.sizeItems items := by
  induction items with
  | nil => rfl
  | cons j rest ih =>
      obtain ⟨hj, hrest⟩ := List.forall_mem_cons.1 h
      rw [List.map_cons, sizeItems, hj, ih hrest, Json.sizeItems]

theorem depthMembers_mapEntries (h : ∀ member ∈ members, (ofJson member.2).depth = member.2.depth) :
    depthMembers (Members.mapEntries ofJson members) = Json.depthMembers members := by
  induction members with
  | nil => rfl
  | cons member rest ih =>
      obtain ⟨hmember, hrest⟩ := List.forall_mem_cons.1 h
      rw [Members.mapEntries, List.map_cons, depthMembers, hmember, ← Members.mapEntries, ih hrest,
        Json.depthMembers]

theorem sizeMembers_mapEntries (h : ∀ member ∈ members, (ofJson member.2).size = member.2.size) :
    sizeMembers (Members.mapEntries ofJson members) = Json.sizeMembers members := by
  induction members with
  | nil => rfl
  | cons member rest ih =>
      obtain ⟨hmember, hrest⟩ := List.forall_mem_cons.1 h
      rw [Members.mapEntries, List.map_cons, sizeMembers, hmember, ← Members.mapEntries, ih hrest,
        Json.sizeMembers]

/-- An object with sorted members becomes one with the same names. -/
theorem ofJson_obj_of_sorted (h : Members.Sorted members) :
    ofJson (.obj members) = object (Members.mapEntries ofJson members) := by
  rw [ofJson, ofJsonMembers_eq_map,
    Members.ofList_eq_self ((Members.sorted_congr (Members.names_mapEntries _ members)).2 h)]

/-- **The value of a canonical tree is as deep as the tree, and has as many parts.** -/
theorem depth_size_ofJson {j : Json} (h : j.Canonical) :
    (ofJson j).depth = j.depth ∧ (ofJson j).size = j.size := by
  induction j with
  | arr items ih =>
      rw [ofJson, ofJsonItems_eq_map, depth, depthItems_map fun j hj => (ih j hj (h.item hj)).1, size,
        sizeItems_map fun j hj => (ih j hj (h.item hj)).2]
      exact ⟨rfl, rfl⟩
  | obj members ih =>
      rw [ofJson_obj_of_sorted h.here, depth,
        depthMembers_mapEntries fun member hmember => (ih member hmember (h.member hmember)).1, size,
        sizeMembers_mapEntries fun member hmember => (ih member hmember (h.member hmember)).2]
      exact ⟨rfl, rfl⟩
  | _ => exact ⟨rfl, rfl⟩

end Value

/-! ### The check -/

namespace Limits

variable {limits : Limits} {input : Json} {fault : Fault}

/-- What the walk through an input comes to is what that along its depths comes to. -/
theorem visited_tour (limits : Limits) (input : Json) : (limits.tour 1 0 input).visited =
    (limits.tourList 0 (input.depths 1)).visited := by
  rw [tour_eq]
  generalize limits.tourList 0 (input.depths 1) = tour
  obtain ⟨visited, outcome⟩ := tour
  cases outcome with
  | error fault => rfl
  | ok seen => exact List.append_nil visited

theorem walk_eq_tourList (limits : Limits) (input : Json) : limits.walk 1 0 input =
    (limits.tourList 0 (input.depths 1)).outcome >>= fun seen => .ok (input.depth, seen) := by
  have hdepth : 1 + input.depth - 1 = input.depth := by omega
  rw [← outcome_tour, tour_eq, Tour.outcome_bind, hdepth]
  rfl

theorem walk_eq_ok {deepest seen : ℕ} : limits.walk 1 0 input = .ok (deepest, seen) ↔
    (limits.tourList 0 (input.depths 1)).outcome = .ok seen ∧ deepest = input.depth := by
  rw [walk_eq_tourList, bind_eq_ok]
  simp only [Except.ok.injEq, Prod.mk.injEq]
  constructor
  · rintro ⟨seen, h, rfl, rfl⟩
    exact ⟨h, rfl⟩
  · rintro ⟨h, rfl⟩
    exact ⟨seen, h, rfl, rfl⟩

theorem check_eq_error : limits.check input = .error fault ↔
    (limits.tourList 0 (input.depths 1)).outcome = .error fault := by
  rw [check, walk_eq_tourList]
  cases (limits.tourList 0 (input.depths 1)).outcome <;> simp [Except.map]

theorem check_eq_ok : limits.check input = .ok () ↔
    ∃ seen, (limits.tourList 0 (input.depths 1)).outcome = .ok seen := by
  rw [check, walk_eq_tourList]
  cases (limits.tourList 0 (input.depths 1)).outcome <;> simp [Except.map]

/-- The first violation among depths: those in front of it keep both limits, and its own depth is looked
at before the count. -/
inductive FirstViolation (limits : Limits) (depths : List Nat) : List Nat → Fault → Prop
  | depth (front rest : List Nat) (heq : depths = front ++ (limits.depth + 1) :: rest)
      (hfront : ∀ e ∈ front, e ≤ limits.depth) (hcount : front.length ≤ limits.nodes) :
      FirstViolation limits depths (front ++ [limits.depth + 1])
        (Fault.limitExceeded "depth" (limits.depth + 1) limits.depth)
  | count (front : List Nat) (d : Nat) (rest : List Nat) (heq : depths = front ++ d :: rest)
      (hfront : ∀ e ∈ front, e ≤ limits.depth) (hcount : front.length = limits.nodes)
      (hdepth : d ≤ limits.depth) :
      FirstViolation limits depths (front ++ [d])
        (Fault.limitExceeded "node count" (limits.nodes + 1) limits.nodes)

/-- What the check of an input finds, and how far it goes. -/
structure Checks (limits : Limits) (input : Json) : Prop where
  /-- the limits are kept exactly if depth and number of values keep them -/
  keeps_iff : limits.check input = .ok () ↔
    (Value.ofJson input).depth ≤ limits.depth ∧ (Value.ofJson input).size ≤ limits.nodes
  /-- a walk to the end finds the depth and the number of values -/
  measures : ∀ deepest seen, limits.walk 1 0 input = .ok (deepest, seen) →
    deepest = (Value.ofJson input).depth ∧ seen = (Value.ofJson input).size
  /-- a fault is that of the first violation, at which the walk stops -/
  first : ∀ fault, limits.check input = .error fault →
    FirstViolation limits (input.depths 1) (limits.tour 1 0 input).visited fault
  /-- the fault is told by the depths of as many values as may be there, and of one more -/
  decided : ∀ fault, limits.check input = .error fault → fault =
    if ∃ d ∈ (input.depths 1).take (limits.nodes + 1), limits.depth < d then
      Fault.limitExceeded "depth" (limits.depth + 1) limits.depth
    else Fault.limitExceeded "node count" (limits.nodes + 1) limits.nodes
  /-- the walk comes to the values in their order, and to no more than one too many -/
  visits : (limits.tour 1 0 input).outcome = limits.walk 1 0 input ∧
    (limits.tour 1 0 input).visited <+: input.depths 1 ∧
    (limits.tour 1 0 input).visited.length ≤ limits.nodes + 1

/-- A walk that stops with a fault stops at the first violation; the first depth that is too great is so
by one. -/
theorem Stops.firstViolation {tour : Tour ℕ} (h : Stops limits 0 (input.depths 1) tour)
    (hfault : tour.outcome = .error fault) :
    FirstViolation limits (input.depths 1) tour.visited fault := by
  cases h with
  | atEnd => cases hfault
  | atDepth front d rest heq hfront hcount hdepth =>
      obtain rfl : d = limits.depth + 1 := by
        obtain rfl | ⟨e, he, rfl⟩ := input.parent_before heq
        · omega
        · have hle := hfront e he
          omega
      cases hfault
      exact .depth front rest heq hfront (by omega)
  | atCount front d rest heq hfront hcount hdepth =>
      cases hfault
      exact .count front d rest heq hfront (by omega) hdepth

theorem FirstViolation.kind_fault {depths visited : List ℕ}
    (h : FirstViolation limits depths visited fault) : fault.kind = .limitExceeded := by
  cases h <;> rfl

/-- The check fails with the fault of a limit, or not at all. -/
theorem kind_of_check (h : limits.check input = .error fault) : fault.kind = .limitExceeded := by
  have hstops : Stops limits 0 (input.depths 1) (limits.tourList 0 (input.depths 1)) :=
    stops_tourList (input.depths 1) (Nat.zero_le limits.nodes)
  exact (hstops.firstViolation (check_eq_error.1 h)).kind_fault

/-- Which fault is that of the first violation is told by the depths up to one value too many. -/
theorem FirstViolation.fault_eq {depths visited : List ℕ}
    (h : FirstViolation limits depths visited fault) : fault =
      if ∃ d ∈ depths.take (limits.nodes + 1), limits.depth < d then
        Fault.limitExceeded "depth" (limits.depth + 1) limits.depth
      else Fault.limitExceeded "node count" (limits.nodes + 1) limits.nodes := by
  cases h with
  | depth front rest heq hfront hcount =>
      rw [if_pos]
      refine ⟨limits.depth + 1, ?_, Nat.lt_succ_self _⟩
      rw [heq, List.take_append, List.mem_append]
      right
      obtain ⟨left, hleft⟩ : ∃ left, limits.nodes + 1 - front.length = left + 1 :=
        ⟨limits.nodes - front.length, by omega⟩
      rw [hleft, List.take_succ_cons]
      exact List.mem_cons_self ..
  | count front d rest heq hfront hcount hdepth =>
      rw [if_neg]
      have htake : depths.take (limits.nodes + 1) = front ++ [d] := by
        rw [heq, ← hcount, List.take_length_add_append, List.take_succ_cons, List.take_zero]
      rintro ⟨e, he, hdeep⟩
      rw [htake] at he
      obtain he | he := List.mem_append.1 he
      · exact absurd (hfront e he) (Nat.not_le.2 hdeep)
      · obtain rfl := List.mem_singleton.1 he
        exact absurd hdepth (Nat.not_le.2 hdeep)

theorem Stops.visited_prefix {depths : List ℕ} {tour : Tour ℕ} (h : Stops limits 0 depths tour) :
    tour.visited <+: depths ∧ tour.visited.length ≤ limits.nodes + 1 := by
  have hfront : ∀ {front : List ℕ} {d : ℕ} {rest : List ℕ}, depths = front ++ d :: rest →
      front.length ≤ limits.nodes →
      front ++ [d] <+: depths ∧ (front ++ [d]).length ≤ limits.nodes + 1 := by
    rintro front d rest rfl hcount
    refine ⟨⟨rest, by rw [List.append_assoc, List.singleton_append]⟩, ?_⟩
    rw [List.length_append, List.length_singleton]
    omega
  cases h with
  | atEnd hdepths hcount =>
      have hle : depths.length ≤ limits.nodes + 1 := by omega
      exact ⟨List.prefix_refl _, hle⟩
  | atDepth front d rest heq _ hcount => exact hfront heq (by omega)
  | atCount front d rest heq _ hcount => exact hfront heq (by omega)

/-- **The check agrees with depth and number of values**, finds the first violation, and stops in
time. -/
theorem checks_canonical (limits : Limits) (j : Json) : Checks limits j.canonical := by
  obtain ⟨hdepth, hsize⟩ := Value.depth_size_ofJson j.sorted_canonical
  generalize j.canonical = input at hdepth hsize ⊢
  have hlength := input.length_depths 1
  have hkept : (∀ d ∈ input.depths 1, d ≤ limits.depth) ↔ input.depth ≤ limits.depth := by
    rw [Json.forall_depths_le_iff]
    omega
  have hstops : Stops limits 0 (input.depths 1) (limits.tourList 0 (input.depths 1)) :=
    stops_tourList (input.depths 1) (Nat.zero_le limits.nodes)
  have hcheck : ∀ fault, limits.check input = .error fault →
      FirstViolation limits (input.depths 1) (limits.tour 1 0 input).visited fault := by
    intro fault hfault
    rw [visited_tour]
    exact hstops.firstViolation (check_eq_error.1 hfault)
  refine ⟨?_, ?_, hcheck, fun fault hfault => (hcheck fault hfault).fault_eq, outcome_tour .., ?_⟩
  · rw [check_eq_ok, hdepth, hsize, ← hkept, ← hlength]
    generalize limits.tourList 0 (input.depths 1) = tour at hstops
    cases hstops with
    | atEnd hdepths hcount => exact iff_of_true ⟨_, rfl⟩ ⟨hdepths, by omega⟩
    | atDepth front d rest heq hfront hcount hdeep =>
        refine iff_of_false (by simp) fun ⟨hall, _⟩ => ?_
        exact absurd (hall d (by simp [heq])) (Nat.not_le.2 hdeep)
    | atCount front d rest heq hfront hcount hkept =>
        refine iff_of_false (by simp) fun ⟨_, hle⟩ => ?_
        rw [heq, List.length_append, List.length_cons] at hle
        omega
  · intro deepest seen hwalk
    obtain ⟨hseen, rfl⟩ := walk_eq_ok.1 hwalk
    rw [hdepth, hsize, ← hlength]
    refine ⟨rfl, ?_⟩
    generalize limits.tourList 0 (input.depths 1) = tour at hstops hseen
    cases hstops with
    | atEnd =>
        cases hseen
        exact Nat.zero_add _
    | atDepth => cases hseen
    | atCount => cases hseen
  · rw [visited_tour]
    exact hstops.visited_prefix

/-- Of a value that is both too deep and one too many the depth is reported. -/
example : check ⟨1, 1⟩ (.arr [.null]) = .error (Fault.limitExceeded "depth" 2 1) := rfl

end Limits

end Conform
