/-
**Creating directories on a volume.**

Creating a directory creates those of its path that are missing, and nothing else: all that was there
stays as it was, whether the creation succeeds or not, and however often it is disturbed.

A path that goes back from a missing directory leads nowhere until this has been created.  A path that
never goes back is different.  If its directories can be created, then it was a directory all along, and
nothing is done, or it leads to a place where nothing was: the first of its directories that was missing
is created where nothing was, and nothing can lie within such a place, no link either.

Main definitions:

* `Path.Within`, `Path.Straight` — the paths that a path lies in, and those that never go back;
* `Volume.Paves` — missing directories of a path were created, and nothing else has happened;
* `Volume.Founds` — nothing was done, or the path leads to a place where nothing was;
* `Volume.Sited` — volumes on which a directory can be created without regard to what is there.

Main results:

* `Path.names_of_parent` — what a path has behind its parent;
* `Volume.paves_createDirectories` — **what the creation of directories adds**;
* `Volume.Sited.founds` — **where it leads to**.
-/

import Conform.Proofs.Volume

set_option relaxedAutoImplicit false
set_option autoImplicit false

namespace Conform

namespace Path

variable {path parent : String}

/-! ### Paths that a path lies in -/

/-- A path, and the paths that it lies in. -/
inductive Within (path : String) : String → Prop
  | self : Within path path
  | parent {above parent : String} : Within path above → parent? above = some parent →
      Within path parent

theorem Within.of_parent {above : String} (hparent : parent? path = some parent)
    (h : Within parent above) : Within path above := by
  induction h with
  | self => exact Within.self.parent hparent
  | parent _ habove ih => exact ih.parent habove

/-- A path that never goes back to the directory before. -/
def Straight (path : String) : Prop := ".." ∉ names path

instance (path : String) : Decidable (Straight path) :=
  inferInstanceAs (Decidable (".." ∉ names path))

theorem noSlash_of_stretches (cs : List Char) : ∀ stretch ∈ stretches cs, '/' ∉ stretch := by
  induction cs with
  | nil => simp [stretches]
  | cons c rest ih =>
      rw [stretches]
      split
      · exact List.forall_mem_cons.2 ⟨List.not_mem_nil, ih⟩
      · next hc =>
          have hname : '/' ∉ [c] := by simpa using Ne.symm hc
          split
          · exact List.forall_mem_singleton.2 hname
          · next name more hrest =>
              rw [hrest] at ih
              obtain ⟨hfirst, hmore⟩ := List.forall_mem_cons.1 ih
              exact List.forall_mem_cons.2 ⟨by simpa [Ne.symm hc] using hfirst, hmore⟩

/-- Stretches that are united are stretches again. -/
theorem stretches_unite {xs : List (List Char)} (hne : xs ≠ []) (h : ∀ x ∈ xs, '/' ∉ x) :
    stretches (unite xs) = xs := by
  induction xs with
  | nil => exact absurd rfl hne
  | cons x rest ih =>
      obtain ⟨hx, hrest⟩ := List.forall_mem_cons.1 h
      cases rest with
      | nil => exact stretches_of_noSlash hx
      | cons y more =>
          have hunite : unite (x :: y :: more) = x ++ '/' :: unite (y :: more) := rfl
          rw [hunite, stretches_append, stretches_of_noSlash hx, ih (List.cons_ne_nil _ _) hrest]
          rfl

theorem exists_dropIdle (xs : List (List Char)) :
    (∃ idle, xs = idle ++ dropIdle xs ∧ ∀ x ∈ idle, isIdle x = true) ∧
      ∀ x, (dropIdle xs).head? = some x → isIdle x = false := by
  induction xs with
  | nil => exact ⟨⟨[], rfl, List.forall_mem_nil _⟩, nofun⟩
  | cons x rest ih =>
      rw [dropIdle]
      split
      · next hidle =>
          obtain ⟨⟨idle, hrest, hall⟩, hhead⟩ := ih
          exact ⟨⟨x :: idle, congrArg (x :: ·) hrest, List.forall_mem_cons.2 ⟨hidle, hall⟩⟩, hhead⟩
      · next hactive =>
          refine ⟨⟨[], rfl, List.forall_mem_nil _⟩, fun y hy => ?_⟩
          obtain rfl := Option.some.inj hy
          exact Bool.eq_false_of_not_eq_true hactive

/-- What stretches have in front of the last one that is not idle, and behind it. -/
theorem exists_of_dropIdle_reverse {body before : List (List Char)} {final : List Char}
    (h : dropIdle body.reverse = final :: before) : isIdle final = false ∧
      ∃ idle idle', body = (dropIdle before).reverse ++ idle ++ final :: idle' ∧
        (∀ x ∈ idle, isIdle x = true) ∧ ∀ x ∈ idle', isIdle x = true := by
  obtain ⟨⟨behind, hbody, hbehind⟩, hfinal⟩ := exists_dropIdle body.reverse
  obtain ⟨⟨between, hbefore, hbetween⟩, -⟩ := exists_dropIdle before
  refine ⟨hfinal final (by rw [h]; rfl), between.reverse, behind.reverse, ?_, ?_, ?_⟩
  · rw [h] at hbody
    conv_lhs => rw [← List.reverse_reverse body, hbody, hbefore]
    simp
  · exact fun x hx => hbetween x (List.mem_reverse.1 hx)
  · exact fun x hx => hbehind x (List.mem_reverse.1 hx)

/-- The stretches of a path, if the parent has the first of them. -/
theorem stretches_of_body {head body before : List (List Char)} {final : List Char}
    (hpath : stretches path.toList = head ++ body) (hbody : dropIdle body.reverse = final :: before)
    (hne : head ++ (dropIdle before).reverse ≠ []) :
    isIdle final = false ∧ ∃ idle idle', stretches path.toList =
      stretches (unite (head ++ (dropIdle before).reverse)) ++ idle ++ final :: idle' ∧
        (∀ x ∈ idle, isIdle x = true) ∧ ∀ x ∈ idle', isIdle x = true := by
  obtain ⟨hfinal, idle, idle', hparts, hidle, hidle'⟩ := exists_of_dropIdle_reverse hbody
  refine ⟨hfinal, idle, idle', ?_, hidle, hidle'⟩
  rw [stretches_unite hne, hpath]
  · rw [hparts]
    simp
  · intro x hx
    refine noSlash_of_stretches path.toList x ?_
    rw [hpath, hparts]
    rcases List.mem_append.1 hx with hx | hx
    · exact List.mem_append_left _ hx
    · simp [hx]

/-- The stretches of a path are those of its parent, others that are idle, and one that is not. -/
theorem stretches_of_parent (h : parent? path = some parent) (hne : parent ≠ "")
    (hroot : parent ≠ "/") : ∃ idle final idle', stretches path.toList =
      stretches parent.toList ++ idle ++ final :: idle' ∧ isIdle final = false ∧
        (∀ x ∈ idle, isIdle x = true) ∧ ∀ x ∈ idle', isIdle x = true := by
  have hparts : ∀ (head : List (List Char)) {body before : List (List Char)} {final : List Char},
      stretches path.toList = head ++ body → dropIdle body.reverse = final :: before →
      parent = String.ofList (unite (head ++ (dropIdle before).reverse)) →
      ∃ idle final idle', stretches path.toList =
        stretches parent.toList ++ idle ++ final :: idle' ∧ isIdle final = false ∧
          (∀ x ∈ idle, isIdle x = true) ∧ ∀ x ∈ idle', isIdle x = true := by
    rintro head body before final hpath hbody rfl
    have hnonempty : head ++ (dropIdle before).reverse ≠ [] := by
      intro hnil
      rw [hnil] at hne
      exact hne rfl
    obtain ⟨hfinal, idle, idle', hstretches, hidle, hidle'⟩ := stretches_of_body hpath hbody hnonempty
    rw [String.toList_ofList]
    exact ⟨idle, final, idle', hstretches, hfinal, hidle, hidle'⟩
  rw [parent?] at h
  split at h
  · next body hpath =>
      split at h
      · cases h
      · next final before hbody =>
          obtain rfl := Option.some.inj h
          refine hparts [[]] hpath hbody ?_
          cases hbefore : (dropIdle before).reverse with
          | nil =>
              rw [hbefore] at hroot
              exact absurd rfl hroot
          | cons first more => rfl
  · next body hpath =>
      split at h
      · exact absurd (Option.some.inj h).symm hne
      · next final before hbody =>
          exact hparts [['.']] hpath hbody (Option.some.inj h).symm
  · split at h
    · cases h
    · next final before hbody => exact hparts [] rfl hbody (Option.some.inj h).symm

/-- A path begins at the root if its first stretch is empty. -/
theorem head?_stretches {cs : List Char} (hne : cs ≠ []) :
    (stretches cs).head? = some [] ↔ cs.head? = some '/' := by
  cases cs with
  | nil => exact absurd rfl hne
  | cons c rest =>
      rw [stretches]
      split
      · next hc => simp [hc]
      · next hc => split <;> simp [hc]

theorem isIdle_iff {stretch : List Char} :
    isIdle stretch = true ↔ String.ofList stretch = "" ∨ String.ofList stretch = "." := by
  rw [isIdle, Bool.or_eq_true, decide_eq_true_eq, decide_eq_true_eq]
  refine or_congr ?_ ?_ <;> rw [← String.toList_inj, String.toList_ofList] <;> rfl

/-- **What a path has behind its parent**: a name, and others that stand for the directory they are in. -/
theorem names_of_parent (h : parent? path = some parent) (hne : parent ≠ "") (hroot : parent ≠ "/") :
    isAbsolute path = isAbsolute parent ∧ ∃ idle name idle',
      names path = names parent ++ (idle ++ name :: idle') ∧ (name ≠ "" ∧ name ≠ ".") ∧
        (∀ n ∈ idle, n = "" ∨ n = ".") ∧ ∀ n ∈ idle', n = "" ∨ n = "." := by
  obtain ⟨idle, final, idle', hstretches, hfinal, hidle, hidle'⟩ := stretches_of_parent h hne hroot
  have hnames : ∀ xs : List (List Char), (∀ x ∈ xs, isIdle x = true) →
      ∀ n ∈ xs.map String.ofList, n = "" ∨ n = "." := by
    intro xs hxs n hn
    obtain ⟨x, hx, rfl⟩ := List.mem_map.1 hn
    exact isIdle_iff.1 (hxs x hx)
  refine ⟨?_, idle.map String.ofList, String.ofList final, idle'.map String.ofList, ?_, ?_,
    hnames idle hidle, hnames idle' hidle'⟩
  · have hparent : parent.toList ≠ [] := by simpa using hne
    have hpath : path.toList ≠ [] := by
      intro hnil
      rw [hnil] at hstretches
      have hlength := congrArg List.length hstretches
      have hpos := List.length_pos_iff.2 (stretches_ne_nil parent.toList)
      simp [stretches] at hlength
      omega
    have hhead : (stretches path.toList).head? = (stretches parent.toList).head? := by
      rw [hstretches, List.append_assoc, List.head?_append_of_ne_nil _ (stretches_ne_nil _)]
    simp only [isAbsolute, ← head?_stretches hparent, ← head?_stretches hpath, hhead]
  · rw [names, hstretches, names]
    simp
  · rw [← not_or, ← isIdle_iff, hfinal]
    exact Bool.false_ne_true

theorem Straight.of_parent (h : Straight path) (hparent : parent? path = some parent) :
    Straight parent := by
  by_cases hne : parent = ""
  · subst hne
    decide
  · by_cases hroot : parent = "/"
    · subst hroot
      decide
    · obtain ⟨-, idle, name, idle', hnames, -⟩ := names_of_parent hparent hne hroot
      rw [Straight, hnames] at h
      exact fun hmem => h (List.mem_append_left _ hmem)

theorem trimmed_ne_nil {names : List String} {name : String} (hname : name ≠ "") :
    trimmed (name :: names) ≠ [] := by
  rw [trimmed]
  split
  · simp [hname]
  · simp

/-- A path that does not begin at the root begins with a name. -/
theorem trimmed_names_ne_nil (hne : path ≠ "") (habsolute : isAbsolute path = false) :
    trimmed (names path) ≠ [] := by
  have hchars : path.toList ≠ [] := by simpa using hne
  cases hstretches : stretches path.toList with
  | nil => exact absurd hstretches (stretches_ne_nil _)
  | cons stretch more =>
      have hname : String.ofList stretch ≠ "" := by
        intro hempty
        have hnil : stretch = [] := by simpa using congrArg String.toList hempty
        rw [isAbsolute, decide_eq_false_iff_not, ← head?_stretches hchars, hstretches, hnil] at habsolute
        exact habsolute rfl
      rw [names, hstretches]
      exact trimmed_ne_nil hname

end Path

namespace Volume

variable {volume later newest made : Volume} {place : List String} {path parent directory : String}
  {outcome : Except FileFault Unit}

/-! ### One directory -/

/-- Where a directory can be created, it lies in one. -/
theorem Rooted.at?_dropLast_site (h : volume.Rooted) (hsite : volume.site path = .ok place)
    (hnone : volume.at? place = none) : volume.at? place.dropLast = some .directory := by
  obtain ⟨-, hne, -, hwalks⟩ := reach_eq_ok.1 hsite
  cases hnames : Path.trimmed (Path.names path) with
  | cons name rest =>
      rw [hnames] at hwalks
      exact h.walks_cons hwalks
  | nil =>
      -- only slashes are left out, so the path leads to the root
      rw [hnames] at hwalks
      cases hwalks
      cases habsolute : Path.isAbsolute path with
      | true =>
          rw [origin, habsolute] at hnone
          exact absurd rfl (ne_nil_of_vacant hnone)
      | false => exact absurd hnames (Path.trimmed_names_ne_nil hne habsolute)

/-- What the creation of one directory does: it is there where nothing was, or the change is over. -/
theorem createDirectory_cases (volume : Volume) (path : String) :
    (∃ fault, volume.createDirectory path = (volume.spent, .error fault)) ∨
    ∃ place, volume.site path = .ok place ∧ volume.at? place = none ∧
      volume.createDirectory path = (volume.spent.adding place .directory, .ok ()) := by
  rw [createDirectory]
  split
  · exact .inl ⟨_, rfl⟩
  · split
    · exact .inl ⟨_, rfl⟩
    · next place hsite =>
        split
        · exact .inl ⟨_, rfl⟩
        · next hnone => exact .inr ⟨place, hsite, hnone, rfl⟩

/-- Of the directories that a path goes through, missing ones were created, and nothing else has
happened. -/
structure Paves (path : String) (volume later : Volume) : Prop where
  /-- nothing has changed where something was -/
  keeps : Extends volume later
  /-- what is new is a directory of the path -/
  created : ∀ place item, volume.at? place = none → later.at? place = some item →
    item = .directory ∧ ∃ above, Path.Within path above ∧ later.place above = .ok place
  rooted : volume.Rooted → later.Rooted

theorem Paves.of_spent (path : String) (volume : Volume) : Paves path volume volume.spent where
  keeps := extends_spent volume
  created := fun place item hnone hitem => by
    have hitem' : volume.at? place = some item := hitem
    simp [hnone] at hitem'
  rooted := id

theorem Paves.refl (path : String) (volume : Volume) : Paves path volume volume where
  keeps := .refl volume
  created := fun place item hnone hitem => by simp [hnone] at hitem
  rooted := id

theorem Paves.trans (h : Paves path volume later) (h' : Paves path later newest) :
    Paves path volume newest where
  keeps := h.keeps.trans h'.keeps
  rooted := h'.rooted ∘ h.rooted
  created := by
    intro place item hnone hitem
    cases hlater : later.at? place with
    | none => exact h'.created place item hlater hitem
    | some found =>
        have hsame := h'.keeps.keeps _ _ hlater
        obtain rfl := Option.some.inj (hitem.symm.trans hsame)
        obtain ⟨hdirectory, above, hwithin, habove⟩ := h.created place _ hnone hlater
        exact ⟨hdirectory, above, hwithin, h'.keeps.place_eq habove⟩

theorem Paves.of_parent (hparent : Path.parent? path = some parent) (h : Paves parent volume later) :
    Paves path volume later where
  keeps := h.keeps
  rooted := h.rooted
  created := fun place item hnone hitem =>
    (h.created place item hnone hitem).imp_right fun ⟨above, hwithin, habove⟩ =>
      ⟨above, hwithin.of_parent hparent, habove⟩

/-- A directory that is created where nothing was lies where its path leads to. -/
theorem place_created (hsite : volume.site path = .ok place) (hnone : volume.at? place = none) :
    (volume.spent.adding place .directory).place path = .ok place ∧
      (volume.spent.adding place .directory).at? place = some .directory := by
  have hadding : volume.spent.Extends (volume.spent.adding place .directory) :=
    extends_adding hnone fun _ => nofun
  have hkeeps := (extends_spent volume).trans hadding
  have hdirectory : (volume.spent.adding place .directory).at? place = some .directory := by
    rw [at?_adding _ (ne_nil_of_vacant hnone), if_pos rfl]
  exact ⟨place_of_site hsite hkeeps hdirectory, hdirectory⟩

theorem paves_createDirectory (volume : Volume) (path : String) :
    Paves path volume (volume.createDirectory path).1 := by
  obtain ⟨fault, hcreated⟩ | ⟨place, hsite, hnone, hcreated⟩ := volume.createDirectory_cases path
  · rw [hcreated]
    exact .of_spent path volume
  · rw [hcreated]
    have hnone' : volume.spent.at? place = none := hnone
    obtain ⟨hplace, -⟩ := place_created hsite hnone
    refine (Paves.of_spent path volume).trans
      ⟨extends_adding hnone' fun _ => nofun, fun other item hother hitem => ?_, fun hrooted => ?_⟩
    · rw [at?_adding _ (ne_nil_of_vacant hnone')] at hitem
      split at hitem
      · next heq =>
          subst heq
          exact ⟨(Option.some.inj hitem).symm, path, .self, hplace⟩
      · rw [hother] at hitem
        cases hitem
    · have hbefore : volume.Rooted := hrooted
      exact hrooted.adding hnone' (hbefore.at?_dropLast_site hsite hnone) .directory

theorem settle_fst (path : String) (created : Volume × Except FileFault Unit) :
    (settle path created).1 = created.1 := by
  rw [settle.eq_def]
  split <;> rfl

/-- A directory that is created, or is there, was there or was created where nothing was. -/
theorem settle_createDirectory (h : settle path (volume.createDirectory path) = (made, .ok ())) :
    (made = volume.spent ∧ volume.spent.isDirectory path = true) ∨
      ∃ place, made.place path = .ok place ∧ volume.at? place = none := by
  obtain ⟨fault, hcreated⟩ | ⟨place, hsite, hnone, hcreated⟩ := volume.createDirectory_cases path
  · rw [hcreated, settle] at h
    obtain ⟨rfl, hsettled⟩ := Prod.mk.inj h
    refine .inl ⟨rfl, ?_⟩
    by_contra hmissing
    rw [if_neg hmissing] at hsettled
    cases hsettled
  · rw [hcreated, settle] at h
    obtain ⟨rfl, -⟩ := Prod.mk.inj h
    exact .inr ⟨place, (place_created hsite hnone).1, hnone⟩

/-! ### A directory and those it lies in -/

theorem paves_createFrom (fuel : ℕ) : ∀ (volume : Volume) (path : String),
    Paves path volume (volume.createFrom fuel path).1 := by
  induction fuel with
  | zero => exact fun volume path => .refl path volume
  | succ fuel ih =>
      intro volume path
      rw [createFrom]
      split
      · exact .refl path volume
      · have hpaves := paves_createDirectory volume path
        split
        · next later hmissing =>
            -- the directories that it lies in are created first
            rw [hmissing] at hpaves
            split
            · exact hpaves
            · next parent hparent =>
                have habove := hpaves.trans ((ih later parent).of_parent hparent)
                split
                · next hcreated => rwa [hcreated] at habove
                · next above hcreated =>
                    rw [hcreated] at habove
                    rw [settle_fst]
                    exact habove.trans (paves_createDirectory above path)
        · rw [settle_fst]
          exact hpaves

/-- **What the creation of directories adds**, even where not all of them can be created. -/
theorem paves_createDirectories (volume : Volume) (path : String) :
    Paves path volume (volume.createDirectories path).1 :=
  paves_createFrom (path.length + 1) volume path

/-- Nothing was done, or the path leads to a place where nothing was. -/
def Founds (path : String) (volume later : Volume) : Prop :=
  Extends later volume ∨ ∃ place, later.place path = .ok place ∧ volume.at? place = none

/-- Within a directory that was created, the path of a name leads to a place where nothing was. -/
theorem vacant_of_parent (hrooted : volume.Rooted) (hext : Extends volume later)
    (hstraight : Path.Straight path) (hparent : Path.parent? path = some parent)
    (hfounded : later.place parent = .ok place) (hnone : volume.at? place = none)
    {lies : List String} (hplace : later.place path = .ok lies) : volume.at? lies = none := by
  obtain ⟨-, hne, -, hfront⟩ := reach_eq_ok.1 hfounded
  obtain ⟨-, -, -, hwalks⟩ := reach_eq_ok.1 hplace
  have hroot : parent ≠ "/" := by
    rintro rfl
    have hslashes : Path.names "/" = ["", ""] := rfl
    rw [hslashes] at hfront
    obtain rfl := hfront.of_idle (by simp)
    exact absurd rfl (ne_nil_of_vacant hnone)
  obtain ⟨habsolute, idle, name, idle', hnames, ⟨hempty, hpoint⟩, hidle, hidle'⟩ :=
    Path.names_of_parent hparent hne hroot
  have hpoints : name ≠ ".." := by
    rintro rfl
    exact hstraight (by rw [hnames]; simp)
  obtain ⟨above, left, habove, hbehind⟩ := hwalks.split hnames
  rw [origin, habsolute] at habove
  obtain rfl := habove.unique hfront
  obtain ⟨above', left', hsame, hlast⟩ := hbehind.split rfl
  obtain rfl := hsame.of_idle hidle
  have hvacant := hrooted.vacant_within hnone name
  cases hlast with
  | blank => exact absurd rfl hempty
  | point => exact absurd rfl hpoint
  | back => exact absurd rfl hpoints
  | enter _ _ _ hrest =>
      obtain rfl := hrest.of_idle hidle'
      exact hvacant
  | follow _ _ hlink | stop _ _ hlink =>
      -- no link is new, and nothing lies within what is
      rw [hext.links _ _ hlink] at hvacant
      cases hvacant

/-- A directory that was created, or is there, was founded, if one that it lies in was. -/
theorem founds_settle (hrooted : volume.Rooted) (hext : Extends volume later)
    (hstraight : Path.Straight path) (hparent : Path.parent? path = some parent)
    (hfounds : Founds parent volume later)
    (h : settle path (later.createDirectory path) = (made, .ok ())) : Founds path volume made := by
  obtain ⟨rfl, hdirectory⟩ | ⟨place, hplace, hnone⟩ := settle_createDirectory h
  · obtain ⟨lies, hplace, -⟩ := isDirectory_iff.1 hdirectory
    refine hfounds.imp (spent_extends later).trans fun ⟨place, hfounded, hnone⟩ => ⟨lies, hplace, ?_⟩
    exact vacant_of_parent hrooted (hext.trans (extends_spent later)) hstraight hparent
      ((extends_spent later).place_eq hfounded) hnone hplace
  · exact .inr ⟨place, hplace, hext.vacant hnone⟩

/-- A straight path founds its directories. -/
theorem founds_createFrom (fuel : ℕ) : ∀ {volume made : Volume} {path : String}, volume.Rooted →
    Path.Straight path → volume.createFrom fuel path = (made, .ok ()) →
      Founds path volume made := by
  induction fuel with
  | zero => exact fun _ _ h => by cases h
  | succ fuel ih =>
      intro volume made path hrooted hstraight h
      rw [createFrom] at h
      split at h
      · obtain ⟨rfl, -⟩ := Prod.mk.inj h
        exact .inl (.refl volume)
      · have hpaves := paves_createDirectory volume path
        split at h
        · next later hmissing =>
            rw [hmissing] at hpaves
            obtain ⟨fault, hcreated⟩ | ⟨_, _, _, hcreated⟩ := volume.createDirectory_cases path
            · rw [hcreated] at hmissing
              obtain ⟨rfl, -⟩ := Prod.mk.inj hmissing
              split at h
              · cases h
              · next parent hparent =>
                  split at h
                  · cases h
                  · next above habove =>
                      have hfounds := ih (hpaves.rooted hrooted) (hstraight.of_parent hparent) habove
                      have hext := (paves_createFrom fuel volume.spent parent).keeps
                      rw [habove] at hext
                      refine founds_settle hrooted (hpaves.keeps.trans hext) hstraight hparent ?_ h
                      exact hfounds.imp_left fun hback => hback.trans (spent_extends volume)
            · rw [hcreated] at hmissing
              cases hmissing
        · obtain ⟨rfl, -⟩ | hfounded := settle_createDirectory h
          · exact .inl (spent_extends volume)
          · exact .inr hfounded

/-- Where there is a directory, creating one does nothing, and whatever disturbs it, it will do. -/
theorem createDirectories_of_isDirectory (h : volume.isDirectory path = true) :
    volume.createDirectories path = (volume.spent, .ok ()) := by
  obtain ⟨place, hplace, hdirectory⟩ := isDirectory_iff.1 h
  obtain ⟨-, hne, -⟩ := reach_eq_ok.1 hplace
  obtain ⟨site, hsite, hsome⟩ := site_of_find hplace (by rw [hdirectory]; rfl)
  obtain ⟨item, hitem⟩ := Option.isSome_iff_exists.1 hsome
  have hsettled : ∀ fault, settle path (volume.spent, .error fault) = (volume.spent, .ok ()) := by
    intro fault
    rw [settle, if_pos ((extends_spent volume).isDirectory h)]
  rw [createDirectories, createFrom, if_neg hne, createDirectory]
  cases volume.mishap? with
  | some mishap => exact hsettled _
  | none =>
      simp only [hsite, hitem]
      exact hsettled _

/-- A volume in which all lies in directories, and a directory that is there, or whose path never goes
back. -/
structure Sited (directory : String) (volume : Volume) : Prop where
  rooted : volume.Rooted
  leads : Path.Straight directory ∨ volume.isDirectory directory = true

theorem Sited.extends (h : Sited directory volume) (hkeeps : Extends volume later)
    (hrooted : later.Rooted) : Sited directory later :=
  ⟨hrooted, h.leads.imp_right hkeeps.isDirectory⟩

/-- **Where the directories of a path lead to**, once they can be created. -/
theorem Sited.founds (h : Sited directory volume)
    (hmade : volume.createDirectories directory = (made, .ok ())) :
    Founds directory volume made := by
  rcases h.leads with hstraight | hdirectory
  · exact founds_createFrom _ h.rooted hstraight hmade
  · rw [createDirectories_of_isDirectory hdirectory] at hmade
    obtain ⟨rfl, -⟩ := Prod.mk.inj hmade
    exact .inl (spent_extends volume)

end Volume

end Conform
