/-
**Ways through a volume.**

What a path leads to, it leads to by steps: through the directory where one is, back to the one before,
into what a name stands for, or through a link.  This module says so by rules, and shows what follows
from the rules: how a way is parted and put together, that an addition keeps every way, and that the
place where a directory would be created is the one to which its path leads afterwards.

Main definitions:

* `Volume.Walks` — the ways through a volume;
* `Volume.Extends` — nothing of a volume has changed, but more files and directories may be there;
* `Volume.Rooted` — what lies anywhere lies in a directory.

Main results:

* `Volume.walk_eq_ok` — **names lead to a place exactly if there is a way**;
* `Volume.Walks.split`, `Volume.Walks.append` — how ways are parted and put together;
* `Volume.Extends.place_eq` — what is added leaves paths where they lead;
* `Volume.place_of_site`, `Volume.site_of_find` — where directories are created;
* `Volume.place_of_join` — where the path of a name in a directory leads.
-/

import Conform.Files.Volume
import Conform.Proofs.Files

set_option relaxedAutoImplicit false
set_option autoImplicit false

namespace Conform

/-- The path of a directory; without a name it is the one from which relative paths begin. -/
def Path.proper (directory : String) : String := if directory = "" then "." else directory

namespace Volume

variable {volume later newest : Volume} {through : Bool} {links : ℕ}
  {start place above : List String} {name path directory : String} {names front rest : List String}
  {item : Item}

/-! ### Ways -/

/-- The name is none of those that stand for the directory where one is or for the one before, and it
is not too long. -/
structure Proper (name : String) : Prop where
  ne_empty : name ≠ ""
  ne_point : name ≠ "."
  ne_points : name ≠ ".."
  fits : name.utf8ByteSize ≤ Files.nameLimit

/-- There is a directory at a place, and it is not barred. -/
def Open (volume : Volume) (place : List String) : Prop :=
  volume.at? place = some .directory ∧ place ∉ volume.barred

/-- The ways through a volume: from a place along names to a place, with a number of links that may be
followed. -/
inductive Walks (volume : Volume) (through : Bool) :
    ℕ → List String → List String → List String → Prop
  | done {links : ℕ} {place : List String} : Walks volume through links place [] place
  | blank {links : ℕ} {start rest place : List String} : volume.at? start = some .directory →
      Walks volume through links start rest place →
      Walks volume through links start ("" :: rest) place
  | point {links : ℕ} {start rest place : List String} : volume.Open start →
      Walks volume through links start rest place →
      Walks volume through links start ("." :: rest) place
  | back {links : ℕ} {start rest place : List String} : volume.Open start →
      Walks volume through links start.dropLast rest place →
      Walks volume through links start (".." :: rest) place
  | enter {links : ℕ} {start rest place : List String} {name : String} : volume.Open start →
      Proper name → (∀ target, volume.at? (start ++ [name]) ≠ some (.link target)) →
      Walks volume through links (start ++ [name]) rest place →
      Walks volume through links start (name :: rest) place
  | follow {links : ℕ} {start rest place : List String} {name target : String} :
      volume.Open start → Proper name → volume.at? (start ++ [name]) = some (.link target) →
      (through = true ∨ rest ≠ []) →
      Walks volume through links (origin start target) (Path.names target ++ rest) place →
      Walks volume through (links + 1) start (name :: rest) place
  | stop {links : ℕ} {start : List String} {name target : String} : volume.Open start →
      Proper name → volume.at? (start ++ [name]) = some (.link target) → through = false →
      Walks volume through links start [name] (start ++ [name])

/-- How a way goes on from a link, where `links` of them may be followed. -/
def behind (volume : Volume) (through : Bool) :
    ℕ → List String → String → List String → Except FileFault (List String)
  | 0, _, _, _ => .error tooManyLinks
  | links + 1, start, target, rest =>
    volume.walk through links (origin start target) (Path.names target ++ rest)

theorem walk_eq (volume : Volume) (through : Bool) (links : ℕ) :
    volume.walk through links = volume.walkWith through (volume.behind through links) := by
  cases links <;> rfl

/-- A way along names is found by following them. -/
theorem Walks.walk (h : Walks volume through links start names place) :
    volume.walk through links start names = .ok place := by
  induction h with
  | done => rw [walk_eq, walkWith]
  | blank hdirectory _ ih =>
      rw [walk_eq] at ih ⊢
      rw [walkWith, hdirectory]
      simpa using ih
  | point hopen _ ih =>
      rw [walk_eq] at ih ⊢
      rw [walkWith, hopen.1]
      simpa [hopen.2] using ih
  | back hopen _ ih =>
      rw [walk_eq] at ih ⊢
      rw [walkWith, hopen.1]
      simpa [hopen.2] using ih
  | @enter _ start rest place name hopen hname hnone _ ih =>
      rw [walk_eq] at ih ⊢
      rw [walkWith, hopen.1]
      simp only [hname.ne_empty, hname.ne_point, hname.ne_points, hopen.2, Nat.not_lt.2 hname.fits,
        if_false]
      exact ih
  | follow hopen hname hlink hthrough _ ih =>
      rw [walk_eq, walkWith, hopen.1]
      simp only [hname.ne_empty, hname.ne_point, hname.ne_points, hopen.2, Nat.not_lt.2 hname.fits,
        if_false, hlink, if_pos hthrough]
      exact ih
  | stop hopen hname hlink hthrough =>
      rw [walk_eq, walkWith, hopen.1]
      simp only [hname.ne_empty, hname.ne_point, hname.ne_points, hopen.2, Nat.not_lt.2 hname.fits,
        if_false, hlink]
      simp [hthrough]

/-- Names that lead somewhere do so by a way, if they do behind each link. -/
theorem walks_of_walkWith (hbehind : ∀ {start rest : List String} {target : String},
      volume.behind through links start target rest = .ok place → ∃ left, links = left + 1 ∧
        Walks volume through left (origin start target) (Path.names target ++ rest) place)
    (h : volume.walkWith through (volume.behind through links) start names = .ok place) :
    Walks volume through links start names place := by
  fun_induction walkWith volume through (volume.behind through links) start names with
  | case1 =>
      obtain rfl := Except.ok.inj h
      exact .done
  | case3 _ _ hdirectory ih => exact .blank hdirectory (ih h)
  | case5 _ _ hdirectory hbarred _ ih => exact .point ⟨hdirectory, hbarred⟩ (ih h)
  | case6 _ _ hdirectory hbarred _ _ ih => exact .back ⟨hdirectory, hbarred⟩ (ih h)
  | case8 _ _ _ hdirectory hempty hbarred hpoint hpoints hlimit _ hlink hthrough =>
      obtain ⟨left, rfl, hwalks⟩ := hbehind h
      exact .follow ⟨hdirectory, hbarred⟩ ⟨hempty, hpoint, hpoints, Nat.not_lt.1 hlimit⟩ hlink
        hthrough hwalks
  | case9 _ _ _ hdirectory hempty hbarred hpoint hpoints hlimit _ hlink hthrough =>
      obtain ⟨hstop, hlast⟩ := not_or.1 hthrough
      obtain rfl := not_not.1 hlast
      obtain rfl := Except.ok.inj h
      exact .stop ⟨hdirectory, hbarred⟩ ⟨hempty, hpoint, hpoints, Nat.not_lt.1 hlimit⟩ hlink
        (Bool.eq_false_of_not_eq_true hstop)
  | case10 _ _ _ hdirectory hempty hbarred hpoint hpoints hlimit hnone ih =>
      exact .enter ⟨hdirectory, hbarred⟩ ⟨hempty, hpoint, hpoints, Nat.not_lt.1 hlimit⟩ hnone (ih h)
  | case2 | case4 | case7 | case11 => cases h

/-- Names that lead somewhere do so by a way; each link leaves one less to be followed. -/
theorem walks_of_walk : ∀ {start names : List String},
    volume.walk through links start names = .ok place →
      Walks volume through links start names place := by
  induction links with
  | zero => exact fun h => walks_of_walkWith nofun (walk_eq volume through 0 ▸ h)
  | succ links ih =>
      exact fun h => walks_of_walkWith (fun hbehind => ⟨links, rfl, ih hbehind⟩)
        (walk_eq volume through (links + 1) ▸ h)

/-- **Names lead to a place exactly if there is a way.** -/
theorem walk_eq_ok : volume.walk through links start names = .ok place ↔
    Walks volume through links start names place :=
  ⟨walks_of_walk, Walks.walk⟩

/-- A way leads to one place only. -/
theorem Walks.unique {other : List String} (h : Walks volume through links start names place)
    (h' : Walks volume through links start names other) : place = other :=
  Except.ok.inj (h.walk.symm.trans h'.walk)

/-- A way can be split behind its first name if it can be split behind the names that follow. -/
theorem Walks.split_cons {more : List String} (h : Walks volume true links start (name :: more) place)
    (hmore : ∀ {front rest : List String}, more = front ++ rest →
      ∃ above left, Walks volume true links start (name :: front) above ∧
        Walks volume true left above rest place)
    (hnames : name :: more = front ++ rest) : ∃ above left,
      Walks volume true links start front above ∧ Walks volume true left above rest place := by
  cases front with
  | nil =>
      rw [hnames] at h
      exact ⟨start, links, .done, h⟩
  | cons first front =>
      obtain ⟨rfl, hrest⟩ := List.cons.inj hnames
      exact hmore hrest

/-- **A way along names leads along the first of them first.** -/
theorem Walks.split (h : Walks volume true links start names place) :
    ∀ {front rest : List String}, names = front ++ rest →
      ∃ above left, Walks volume true links start front above ∧
        Walks volume true left above rest place := by
  induction h with
  | done =>
      intro front rest hnames
      obtain ⟨rfl, rfl⟩ := List.append_eq_nil_iff.1 hnames.symm
      exact ⟨_, 0, .done, .done⟩
  | blank hdirectory hwalks ih =>
      intro front rest hnames
      refine Walks.split_cons (.blank hdirectory hwalks) (fun hmore => ?_) hnames
      obtain ⟨above, left, hfront, hbehind⟩ := ih hmore
      exact ⟨above, left, .blank hdirectory hfront, hbehind⟩
  | point hopen hwalks ih =>
      intro front rest hnames
      refine Walks.split_cons (.point hopen hwalks) (fun hmore => ?_) hnames
      obtain ⟨above, left, hfront, hbehind⟩ := ih hmore
      exact ⟨above, left, .point hopen hfront, hbehind⟩
  | back hopen hwalks ih =>
      intro front rest hnames
      refine Walks.split_cons (.back hopen hwalks) (fun hmore => ?_) hnames
      obtain ⟨above, left, hfront, hbehind⟩ := ih hmore
      exact ⟨above, left, .back hopen hfront, hbehind⟩
  | enter hopen hname hnone hwalks ih =>
      intro front rest hnames
      refine Walks.split_cons (.enter hopen hname hnone hwalks) (fun hmore => ?_) hnames
      obtain ⟨above, left, hfront, hbehind⟩ := ih hmore
      exact ⟨above, left, .enter hopen hname hnone hfront, hbehind⟩
  | follow hopen hname hlink hthrough hwalks ih =>
      intro front rest hnames
      refine Walks.split_cons (.follow hopen hname hlink hthrough hwalks) (fun hmore => ?_) hnames
      -- the names of the link's target stand in front of those that follow
      obtain ⟨above, left, hfront, hbehind⟩ := ih (hmore ▸ (List.append_assoc ..).symm)
      exact ⟨above, left, .follow hopen hname hlink (.inl rfl) hfront, hbehind⟩
  | stop hopen hname hlink hthrough => cases hthrough

/-- **Ways that meet make one way.**  What is left of the links depends on the first of them. -/
theorem Walks.append (h : Walks volume true links start front above) :
    ∃ left, ∀ {rest place : List String}, Walks volume true left above rest place →
      Walks volume true links start (front ++ rest) place := by
  induction h with
  | @done links => exact ⟨links, fun hrest => hrest⟩
  | blank hdirectory _ ih => exact ih.imp fun _ hleft _ _ hrest => .blank hdirectory (hleft hrest)
  | point hopen _ ih => exact ih.imp fun _ hleft _ _ hrest => .point hopen (hleft hrest)
  | back hopen _ ih => exact ih.imp fun _ hleft _ _ hrest => .back hopen (hleft hrest)
  | enter hopen hname hnone _ ih =>
      exact ih.imp fun _ hleft _ _ hrest => .enter hopen hname hnone (hleft hrest)
  | follow hopen hname hlink _ _ ih =>
      refine ih.imp fun _ hleft rest _ hrest => ?_
      have hbehind := hleft hrest
      rw [List.append_assoc] at hbehind
      exact .follow hopen hname hlink (.inl rfl) hbehind
  | stop _ _ _ hthrough => cases hthrough

/-- A way with a name at its end goes into what the name stands for, or through a link. -/
theorem Walks.last (h : Walks volume true links start [name] place) (hname : Path.IsName name) :
    volume.Open start ∧ (place = start ++ [name] ∨
      ∃ target, volume.at? (start ++ [name]) = some (.link target)) := by
  cases h with
  | blank => exact absurd rfl hname.ne_empty
  | point => exact absurd rfl hname.ne_point
  | back => exact absurd rfl hname.ne_points
  | enter hopen _ _ hwalks =>
      cases hwalks
      exact ⟨hopen, .inl rfl⟩
  | follow hopen _ hlink => exact ⟨hopen, .inr ⟨_, hlink⟩⟩
  | stop _ _ _ hthrough => cases hthrough

/-- Where a way goes on, there is a directory. -/
theorem Walks.at?_start (h : Walks volume through links start (name :: rest) place) :
    volume.at? start = some .directory := by
  cases h with
  | blank hdirectory => exact hdirectory
  | point hopen | back hopen | enter hopen | follow hopen | stop hopen => exact hopen.1

/-- Names that stand for the directory where one is lead nowhere else. -/
theorem Walks.of_idle (h : Walks volume true links start names place)
    (hidle : ∀ name ∈ names, name = "" ∨ name = ".") : place = start := by
  induction names with
  | nil =>
      cases h
      rfl
  | cons name rest ih =>
      obtain ⟨hname, hrest⟩ := List.forall_mem_cons.1 hidle
      cases h with
      | blank _ hwalks | point _ hwalks => exact ih hwalks hrest
      | back => exact absurd hname (by decide)
      | enter _ hproper | follow _ hproper | stop _ hproper =>
          exact absurd hname (not_or.2 ⟨hproper.ne_empty, hproper.ne_point⟩)

theorem walks_blanks (h : volume.at? start = some .directory) (links count : ℕ) :
    Walks volume true links start (List.replicate count "") start := by
  induction count with
  | zero => exact .done
  | succ count ih => exact .blank h ih

/-! ### Paths -/

/-- Names of a path lead somewhere if it is one, and if there is a way along them. -/
theorem reach_eq_ok : volume.reach through path names = .ok place ↔
    path.toList.contains '\x00' = false ∧ path ≠ "" ∧ path.utf8ByteSize ≤ Files.pathLimit ∧
      Walks volume through linkLimit (origin volume.here path) names place := by
  rw [reach, ← walk_eq_ok]
  by_cases hnul : path.toList.contains '\x00'
  · rw [if_pos hnul, hnul]
    simp
  · by_cases hne : path = ""
    · rw [if_neg hnul, if_pos hne]
      simp [hne]
    · by_cases hlimit : Files.pathLimit < path.utf8ByteSize
      · rw [if_neg hnul, if_neg hne, if_pos hlimit]
        simp [Nat.not_le.2 hlimit]
      · rw [if_neg hnul, if_neg hne, if_neg hlimit, and_iff_right (by simpa using hnul),
          and_iff_right hne, and_iff_right (Nat.not_lt.1 hlimit)]

theorem find_eq_ok : volume.find path = .ok (place, item) ↔
    volume.place path = .ok place ∧ volume.at? place = some item := by
  rw [find, bind_eq_ok]
  constructor
  · rintro ⟨found, hfound, h⟩
    split at h
    · next hitem =>
        cases h
        exact ⟨hfound, hitem⟩
    · cases h
  · rintro ⟨hplace, hitem⟩
    exact ⟨place, hplace, by rw [hitem]⟩

theorem pathExists_iff : volume.pathExists path = true ↔
    ∃ place item, volume.place path = .ok place ∧ volume.at? place = some item := by
  simp only [← find_eq_ok, pathExists]
  cases volume.find path with
  | error fault => simp [Except.toOption]
  | ok found =>
      obtain ⟨place, item⟩ := found
      simp [Except.toOption]

theorem isDirectory_iff : volume.isDirectory path = true ↔
    ∃ place, volume.place path = .ok place ∧ volume.at? place = some .directory := by
  simp only [← find_eq_ok, isDirectory]
  split
  · next place h => simp [h]
  · next h => simpa using h

/-! ### Adding to a volume -/

/-- Nothing of the volume has changed, but more may be there, though no more links. -/
structure Extends (volume later : Volume) : Prop where
  here : later.here = volume.here
  barred : later.barred = volume.barred
  keeps : ∀ place item, volume.at? place = some item → later.at? place = some item
  links : ∀ place target, later.at? place = some (.link target) →
    volume.at? place = some (.link target)

theorem Extends.refl (volume : Volume) : Extends volume volume :=
  ⟨rfl, rfl, fun _ _ h => h, fun _ _ h => h⟩

theorem Extends.trans (h : Extends volume later) (h' : Extends later newest) : Extends volume newest where
  here := h'.here.trans h.here
  barred := h'.barred.trans h.barred
  keeps := fun place item hitem => h'.keeps place item (h.keeps place item hitem)
  links := fun place target hlink => h.links place target (h'.links place target hlink)

/-- Where nothing is now, nothing was before. -/
theorem Extends.vacant (h : Extends volume later) (hnone : later.at? place = none) :
    volume.at? place = none := by
  rw [Option.eq_none_iff_forall_ne_some] at hnone ⊢
  exact fun item hitem => hnone item (h.keeps place item hitem)

theorem Extends.open (h : Extends volume later) (hopen : volume.Open place) : later.Open place :=
  ⟨h.keeps _ _ hopen.1, h.barred ▸ hopen.2⟩

/-- An addition keeps every way. -/
theorem Extends.walks (h : Extends volume later) (hwalks : Walks volume through links start names place) :
    Walks later through links start names place := by
  induction hwalks with
  | done => exact .done
  | blank hdirectory _ ih => exact .blank (h.keeps _ _ hdirectory) ih
  | point hopen _ ih => exact .point (h.open hopen) ih
  | back hopen _ ih => exact .back (h.open hopen) ih
  | enter hopen hname hnone _ ih =>
      exact .enter (h.open hopen) hname (fun target hlink => hnone target (h.links _ _ hlink)) ih
  | follow hopen hname hlink hthrough _ ih =>
      exact .follow (h.open hopen) hname (h.keeps _ _ hlink) hthrough ih
  | stop hopen hname hlink hthrough =>
      exact .stop (h.open hopen) hname (h.keeps _ _ hlink) hthrough

/-- **What is added leaves paths where they lead.** -/
theorem Extends.place_eq (h : Extends volume later) (hplace : volume.place path = .ok place) :
    later.place path = .ok place := by
  obtain ⟨hnul, hne, hlimit, hwalks⟩ := reach_eq_ok.1 hplace
  exact reach_eq_ok.2 ⟨hnul, hne, hlimit, h.here ▸ h.walks hwalks⟩

theorem Extends.isDirectory (h : Extends volume later) (hdirectory : volume.isDirectory path = true) :
    later.isDirectory path = true := by
  obtain ⟨place, hplace, hitem⟩ := isDirectory_iff.1 hdirectory
  exact isDirectory_iff.2 ⟨place, h.place_eq hplace, h.keeps _ _ hitem⟩

theorem at?_adding (volume : Volume) (hplace : place ≠ []) (item : Item) (other : List String) :
    (volume.adding place item).at? other = if other = place then some item else volume.at? other := by
  rw [at?, at?, adding, Files.lookup_put]
  split
  · next hroot =>
      rw [if_neg]
      rintro rfl
      exact hplace hroot
  · rfl

theorem ne_nil_of_vacant (h : volume.at? place = none) : place ≠ [] := by
  rintro rfl
  simp [at?] at h

/-- Where there is nothing, a file or a directory may be added. -/
theorem extends_adding (hplace : volume.at? place = none) (hitem : ∀ target, item ≠ .link target) :
    Extends volume (volume.adding place item) := by
  have hat := at?_adding volume (ne_nil_of_vacant hplace) item
  refine ⟨rfl, rfl, fun other found hfound => ?_, fun other target hlink => ?_⟩
  · rw [hat, if_neg]
    · exact hfound
    · rintro rfl
      rw [hplace] at hfound
      cases hfound
  · rw [hat] at hlink
    split at hlink
    · exact absurd (Option.some.inj hlink) (hitem target)
    · exact hlink

/-- A change that is over leaves what is there. -/
theorem extends_spent (volume : Volume) : Extends volume volume.spent :=
  ⟨rfl, rfl, fun _ _ h => h, fun _ _ h => h⟩

theorem spent_extends (volume : Volume) : Extends volume.spent volume :=
  ⟨rfl, rfl, fun _ _ h => h, fun _ _ h => h⟩

/-! ### Where directories are created -/

/-- Where a way leads to something, a directory would be created at something. -/
theorem Walks.to_site (h : Walks volume true links start names place)
    (hsome : (volume.at? place).isSome) :
    ∃ site, Walks volume false links start names site ∧ (volume.at? site).isSome := by
  induction h with
  | done => exact ⟨_, .done, hsome⟩
  | blank hdirectory _ ih => exact (ih hsome).imp fun _ hsite => ⟨.blank hdirectory hsite.1, hsite.2⟩
  | point hopen _ ih => exact (ih hsome).imp fun _ hsite => ⟨.point hopen hsite.1, hsite.2⟩
  | back hopen _ ih => exact (ih hsome).imp fun _ hsite => ⟨.back hopen hsite.1, hsite.2⟩
  | enter hopen hname hnone _ ih =>
      exact (ih hsome).imp fun _ hsite => ⟨.enter hopen hname hnone hsite.1, hsite.2⟩
  | @follow _ _ rest _ _ _ hopen hname hlink _ _ ih =>
      -- a link in last place is not followed, and it is something itself
      by_cases hlast : rest = []
      · subst hlast
        exact ⟨_, .stop hopen hname hlink rfl, by rw [hlink]; rfl⟩
      · exact (ih hsome).imp fun _ hsite =>
          ⟨.follow hopen hname hlink (.inr hlast) hsite.1, hsite.2⟩
  | stop _ _ _ hthrough => cases hthrough

/-- A directory that has been created is where the way leads to. -/
theorem Walks.of_site (h : Walks volume false links start names place) (hext : Extends volume later)
    (hdirectory : later.at? place = some .directory) : Walks later true links start names place := by
  induction h with
  | done => exact .done
  | blank hblank _ ih => exact .blank (hext.keeps _ _ hblank) (ih hdirectory)
  | point hopen _ ih => exact .point (hext.open hopen) (ih hdirectory)
  | back hopen _ ih => exact .back (hext.open hopen) (ih hdirectory)
  | enter hopen hname hnone _ ih =>
      exact .enter (hext.open hopen) hname (fun target hlink => hnone target (hext.links _ _ hlink))
        (ih hdirectory)
  | follow hopen hname hlink _ _ ih =>
      exact .follow (hext.open hopen) hname (hext.keeps _ _ hlink) (.inl rfl) (ih hdirectory)
  | stop _ _ hlink =>
      rw [hext.keeps _ _ hlink] at hdirectory
      cases hdirectory

/-- Where a path leads to something, something is in the way of a new directory. -/
theorem site_of_find (hplace : volume.place path = .ok place) (hsome : (volume.at? place).isSome) :
    ∃ site, volume.site path = .ok site ∧ (volume.at? site).isSome := by
  obtain ⟨hnul, hne, hlimit, hwalks⟩ := reach_eq_ok.1 hplace
  obtain ⟨count, hnames⟩ := Path.exists_trimmed (Path.names path)
  obtain ⟨above, left, hfront, hblanks⟩ := hwalks.split hnames
  obtain rfl := hblanks.of_idle fun _ hmem => .inl (List.eq_of_mem_replicate hmem)
  obtain ⟨site, hsite, hitem⟩ := hfront.to_site hsome
  exact ⟨site, reach_eq_ok.2 ⟨hnul, hne, hlimit, hsite⟩, hitem⟩

/-- **A directory that has been created is where its path leads to.** -/
theorem place_of_site (hsite : volume.site path = .ok place) (hext : Extends volume later)
    (hdirectory : later.at? place = some .directory) : later.place path = .ok place := by
  obtain ⟨hnul, hne, hlimit, hwalks⟩ := reach_eq_ok.1 hsite
  obtain ⟨count, hnames⟩ := Path.exists_trimmed (Path.names path)
  obtain ⟨left, hbehind⟩ := (hwalks.of_site hext hdirectory).append
  refine reach_eq_ok.2 ⟨hnul, hne, hlimit, ?_⟩
  rw [hnames, hext.here]
  exact hbehind (walks_blanks hdirectory left count)

/-! ### Where everything lies -/

/-- What lies anywhere lies in a directory. -/
def Rooted (volume : Volume) : Prop :=
  ∀ place, (volume.at? place).isSome → volume.at? place.dropLast = some .directory

theorem rooted_of_items
    (h : ∀ entry ∈ volume.items, volume.at? entry.1.dropLast = some .directory) : volume.Rooted := by
  intro place hsome
  by_cases hroot : place = []
  · subst hroot
    rfl
  · rw [at?, if_neg hroot, List.lookup_isSome_iff] at hsome
    obtain ⟨entry, hmem, heq⟩ := hsome
    rw [eq_of_beq heq]
    exact h entry hmem

theorem Rooted.at?_dropLast (h : volume.Rooted) (hitem : volume.at? place = some item) :
    volume.at? place.dropLast = some .directory :=
  h place (by rw [hitem]; rfl)

/-- Where there is nothing, nothing lies within. -/
theorem Rooted.vacant_within (h : volume.Rooted) (hnone : volume.at? place = none) (name : String) :
    volume.at? (place ++ [name]) = none := by
  rw [Option.eq_none_iff_forall_ne_some]
  intro item hitem
  have habove := h.at?_dropLast hitem
  rw [List.dropLast_concat, hnone] at habove
  cases habove

/-- A way leads to a place in a directory, whether something lies there or not. -/
theorem Rooted.walks (h : volume.Rooted) (hwalks : Walks volume through links start names place)
    (hstart : volume.at? start.dropLast = some .directory) :
    volume.at? place.dropLast = some .directory := by
  induction hwalks with
  | done => exact hstart
  | blank _ _ ih | point _ _ ih => exact ih hstart
  | back _ _ ih => exact ih (h.at?_dropLast hstart)
  | enter hopen _ _ _ ih => exact ih (by rw [List.dropLast_concat]; exact hopen.1)
  | @follow _ _ _ _ _ target _ _ _ _ _ ih =>
      refine ih ?_
      rw [origin]
      split
      · rfl
      · exact hstart
  | stop hopen =>
      rw [List.dropLast_concat]
      exact hopen.1

theorem Rooted.walks_cons (h : volume.Rooted)
    (hwalks : Walks volume through links start (name :: rest) place) :
    volume.at? place.dropLast = some .directory :=
  h.walks hwalks (h.at?_dropLast hwalks.at?_start)

theorem Rooted.at?_dropLast_place (h : volume.Rooted) (hplace : volume.place path = .ok place) :
    volume.at? place.dropLast = some .directory := by
  obtain ⟨-, -, -, hwalks⟩ := reach_eq_ok.1 hplace
  cases hnames : Path.names path with
  | nil => exact absurd (List.map_eq_nil_iff.1 hnames) (Path.stretches_ne_nil _)
  | cons name rest =>
      rw [hnames] at hwalks
      exact h.walks_cons hwalks

/-- A volume stays rooted if something is added in a directory. -/
theorem Rooted.adding (h : volume.Rooted) (hnone : volume.at? place = none)
    (habove : volume.at? place.dropLast = some .directory) (item : Item) :
    (volume.adding place item).Rooted := by
  have hat := at?_adding volume (ne_nil_of_vacant hnone) item
  have hkeeps : ∀ other, volume.at? other = some .directory →
      (volume.adding place item).at? other = some .directory := by
    intro other hother
    rw [hat, if_neg]
    · exact hother
    · rintro rfl
      rw [hnone] at hother
      cases hother
  intro other hother
  rw [hat] at hother
  split at hother
  · next heq => exact hkeeps _ (heq ▸ habove)
  · exact hkeeps _ (h other hother)

/-! ### Names in a directory -/

/-- Where a name leads in the directory in which relative paths begin. -/
theorem place_of_name (hname : Path.IsName name) (h : volume.place name = .ok place) :
    volume.place "." = .ok volume.here ∧ volume.Open volume.here ∧ (place = volume.here ++ [name] ∨
      ∃ target, volume.at? (volume.here ++ [name]) = some (.link target)) := by
  obtain ⟨-, -, -, hwalks⟩ := reach_eq_ok.1 h
  have hnames : Path.names name = [name] := by
    rw [Path.names, Path.stretches_of_noSlash hname.noSlash, List.map_singleton,
      String.ofList_toList]
  rw [hnames, origin, hname.not_absolute, if_neg Bool.false_ne_true] at hwalks
  obtain ⟨hopen, hlies⟩ := hwalks.last hname
  exact ⟨reach_eq_ok.2 ⟨by decide, by decide, by decide, .point hopen .done⟩, hopen, hlies⟩

/-- **Where the path of a name in a directory leads**: to its place in the directory to which the path of
the directory leads, unless there is a link of this name. -/
theorem place_of_join (hname : Path.IsName name)
    (h : volume.place (Path.join directory name) = .ok place) :
    ∃ above, volume.place (Path.proper directory) = .ok above ∧
      volume.at? above = some .directory ∧ (place = above ++ [name] ∨
        ∃ target, volume.at? (above ++ [name]) = some (.link target)) := by
  rw [Path.proper]
  by_cases hne : directory = ""
  · have hjoin : Path.join directory name = name := if_pos (.inr hne)
    rw [hjoin] at h
    obtain ⟨hhere, hopen, hlies⟩ := place_of_name hname h
    exact ⟨volume.here, by rw [if_pos hne, hhere], hopen.1, hlies⟩
  · obtain ⟨hnul, -, hlimit, hwalks⟩ := reach_eq_ok.1 h
    obtain ⟨front, hjoined, hfront⟩ := Path.stretches_join hname hne
    obtain ⟨rest, hrest, -⟩ := Path.join_begins hname hne
    have hnames : Path.names (Path.join directory name) = front.map String.ofList ++ [name] := by
      rw [Path.names, hjoined, List.map_append, List.map_singleton, String.ofList_toList]
    obtain ⟨above, left, habove, hlast⟩ := hwalks.split hnames
    obtain ⟨hopen, hlies⟩ := hlast.last hname
    rw [hrest, origin, Path.isAbsolute_append hne] at habove
    rw [if_neg hne]
    refine ⟨above, reach_eq_ok.2 ⟨?_, hne, ?_, ?_⟩, hopen.1, hlies⟩
    · rw [hrest, String.toList_append, List.contains_append, Bool.or_eq_false_iff] at hnul
      exact hnul.1
    · rw [hrest, String.utf8ByteSize_append] at hlimit
      omega
    · rcases hfront with hfront | hfront
      · rw [Path.names, hfront]
        exact habove
      · -- the path of the directory ends in a slash
        obtain ⟨left', hbehind⟩ := habove.append
        rw [Path.names, hfront, List.map_append, List.map_singleton]
        exact hbehind (.blank hopen.1 .done)

end Volume

end Conform
