/-
**Files with other contents.**

What a file holds has no influence on where paths lead, on what is listed, and on which directories can
be created.  So if the bytes of one file are replaced, everything goes on as before, apart from reading
this file; and what is created meanwhile is the same, whether the bytes are replaced before or after.

Main definitions:

* `Files.HasFile` — there is a file at a place.

Main results:

* `Files.place_replaced`, `Files.list_replaced` — what bytes have no influence on;
* `Files.read_replaced` — other files are read as before;
* `Files.createFrom_replaced` — **creating directories and replacing bytes can be exchanged**.
-/

import Conform.Proofs.Directories

set_option relaxedAutoImplicit false
set_option autoImplicit false

namespace Conform

namespace Files

variable {files later : Files} {place other : List String} {path directory : String}
  {bytes : ByteArray} {nodes : List (List String × Node)} {node node' : Node}

/-- There is a file at a place. -/
def HasFile (files : Files) (place : List String) : Prop :=
  ∃ bytes, files.at? place = some (.file bytes)

theorem HasFile.extends (h : files.HasFile place) (hkeeps : Extends files later) :
    later.HasFile place :=
  h.imp fun _ hfile => hkeeps.keeps _ _ hfile

theorem HasFile.ne_nil (h : files.HasFile place) : place ≠ [] := by
  rintro rfl
  obtain ⟨bytes, hfile⟩ := h
  cases hfile

theorem HasFile.mem (h : files.HasFile place) : place ∈ files.nodes.map Prod.fst := by
  obtain ⟨bytes, hfile⟩ := h
  rw [at?, if_neg (HasFile.ne_nil ⟨bytes, hfile⟩)] at hfile
  obtain ⟨entry, hmem, heq⟩ := List.lookup_isSome_iff.1 (by rw [hfile]; rfl)
  exact List.mem_map.2 ⟨entry, hmem, (eq_of_beq heq).symm⟩

/-! ### Nodes -/

/-- To replace a node keeps the order of the places. -/
theorem map_fst_put (h : place ∈ nodes.map Prod.fst) :
    (put place node nodes).map Prod.fst = nodes.map Prod.fst := by
  induction nodes with
  | nil => cases h
  | cons entry rest ih =>
      rw [put]
      split
      · next heq => rw [List.map_cons, List.map_cons, heq]
      · next hne =>
          have hrest := List.mem_of_ne_of_mem (Ne.symm hne) h
          rw [List.map_cons, List.map_cons, ih hrest]

/-- To replace a node and to put another one elsewhere can be exchanged. -/
theorem put_put (h : place ∈ nodes.map Prod.fst) (hother : other ≠ place) :
    put other node' (put place node nodes) = put place node (put other node' nodes) := by
  induction nodes with
  | nil => cases h
  | cons entry rest ih =>
      by_cases hplace : entry.1 = place
      · have hne : entry.1 ≠ other := fun heq => hother (heq.symm.trans hplace)
        rw [put, if_pos hplace, put, if_neg hother.symm, put, if_neg hne, put, if_pos hplace]
      · have hrest := List.mem_of_ne_of_mem (Ne.symm hplace) h
        by_cases heq : entry.1 = other
        · rw [put, if_neg hplace, put, if_pos heq, put, if_pos heq, put, if_neg hother]
        · rw [put, if_neg hplace, put, if_neg heq, put, if_neg heq, put, if_neg hplace, ih hrest]

/-! ### What bytes have no influence on -/

/-- A place is taken by a directory, taken by a file, or free, whatever the bytes are. -/
theorem HasFile.cases_at? (h : files.HasFile place) (bytes : ByteArray) (other : List String) :
    (∃ old, files.at? other = some (.file old) ∧
      (files.adding place (.file bytes)).at? other = some (.file bytes) ∧ other = place) ∨
    (other ≠ place ∧ (files.adding place (.file bytes)).at? other = files.at? other) := by
  rw [at?_adding files h.ne_nil]
  by_cases hother : other = place
  · subst hother
    obtain ⟨old, hold⟩ := h
    exact .inl ⟨old, hold, if_pos rfl, rfl⟩
  · exact .inr ⟨hother, if_neg hother⟩

theorem follow_replaced (h : files.HasFile place) (bytes : ByteArray) (names : List String) :
    ∀ start : List String,
      (files.adding place (.file bytes)).follow start names = files.follow start names := by
  induction names with
  | nil => exact fun start => rfl
  | cons name rest ih =>
      intro start
      rw [follow, follow]
      obtain ⟨old, hold, hnew, -⟩ | ⟨-, hsame⟩ := h.cases_at? bytes start
      · rw [hold, hnew]
      · rw [hsame]
        simp only [ih]

theorem reach_replaced (h : files.HasFile place) (bytes : ByteArray) (path : String)
    (names : List String) :
    (files.adding place (.file bytes)).reach path names = files.reach path names := by
  rw [reach, reach, follow_replaced h]
  rfl

/-- **Paths lead where they led.** -/
theorem place_replaced (h : files.HasFile place) (bytes : ByteArray) (path : String) :
    (files.adding place (.file bytes)).place path = files.place path :=
  reach_replaced h bytes path (Path.names path)

theorem site_replaced (h : files.HasFile place) (bytes : ByteArray) (path : String) :
    (files.adding place (.file bytes)).site path = files.site path :=
  reach_replaced h bytes path (Path.trimmed (Path.names path))

/-- What is found elsewhere is the same. -/
theorem find_replaced (h : files.HasFile place) (bytes : ByteArray)
    (hpath : files.place path ≠ .ok place) :
    (files.adding place (.file bytes)).find path = files.find path := by
  rw [find, find, place_replaced h]
  cases hother : files.place path with
  | error fault => rfl
  | ok other =>
      have hne : other ≠ place := by
        rintro rfl
        exact hpath hother
      simp only
      rw [at?_adding files h.ne_nil, if_neg hne]

/-- **Other files are read as before.** -/
theorem read_replaced (h : files.HasFile place) (bytes : ByteArray)
    (hpath : files.place path ≠ .ok place) :
    (files.adding place (.file bytes)).read path = files.read path := by
  rw [read, read, find_replaced h bytes hpath]

theorem find_place (hplace : files.place path = .ok place) (hnode : files.at? place = some node) :
    files.find path = .ok node := by
  rw [find, hplace]
  simp only [hnode]

/-- What is found is a file or a directory as before. -/
theorem HasFile.cases_find (h : files.HasFile place) (bytes : ByteArray) (path : String) :
    (∃ old, files.find path = .ok (.file old) ∧
      (files.adding place (.file bytes)).find path = .ok (.file bytes)) ∨
    (files.adding place (.file bytes)).find path = files.find path := by
  by_cases hpath : files.place path = .ok place
  · left
    obtain ⟨old, hold⟩ := h
    have h : files.HasFile place := ⟨old, hold⟩
    refine ⟨old, find_place hpath hold, find_place ((place_replaced h bytes path).trans hpath) ?_⟩
    rw [at?_adding files h.ne_nil, if_pos rfl]
  · exact .inr (find_replaced h bytes hpath)

theorem pathExists_replaced (h : files.HasFile place) (bytes : ByteArray) (path : String) :
    (files.adding place (.file bytes)).pathExists path = files.pathExists path := by
  rw [pathExists, pathExists]
  obtain ⟨old, hold, hnew⟩ | hsame := h.cases_find bytes path
  · rw [hold, hnew]
    rfl
  · rw [hsame]

theorem isFile_replaced (h : files.HasFile place) (bytes : ByteArray) (path : String) :
    (files.adding place (.file bytes)).isFile path = files.isFile path := by
  rw [isFile, isFile]
  obtain ⟨old, hold, hnew⟩ | hsame := h.cases_find bytes path
  · rw [hold, hnew]
  · rw [hsame]

theorem isDirectory_replaced (h : files.HasFile place) (bytes : ByteArray) (path : String) :
    (files.adding place (.file bytes)).isDirectory path = files.isDirectory path := by
  rw [isDirectory, isDirectory]
  obtain ⟨old, hold, hnew⟩ | hsame := h.cases_find bytes path
  · rw [hold, hnew]
  · rw [hsame]

/-- The names in a directory are a matter of places only. -/
theorem namesIn_congr {nodes' : List (List String × Node)}
    (h : nodes.map Prod.fst = nodes'.map Prod.fst) (here lies : List String) :
    namesIn ⟨nodes, here⟩ lies = namesIn ⟨nodes', here⟩ lies := by
  induction nodes generalizing nodes' with
  | nil =>
      obtain rfl := List.map_eq_nil_iff.1 h.symm
      rfl
  | cons entry rest ih =>
      cases nodes' with
      | nil => cases h
      | cons entry' rest' =>
          obtain ⟨hentry, hrest⟩ := List.cons.inj h
          replace ih := ih hrest
          rw [namesIn, namesIn] at ih ⊢
          rw [List.filterMap_cons, List.filterMap_cons, hentry, ih]

/-- **Directories list what they listed.** -/
theorem list_replaced (h : files.HasFile place) (bytes : ByteArray) (path : String) :
    (files.adding place (.file bytes)).list path = files.list path := by
  have hnames : ∀ lies, (files.adding place (.file bytes)).namesIn lies = files.namesIn lies :=
    fun lies => namesIn_congr (map_fst_put h.mem) files.here lies
  rw [list, list, place_replaced h]
  refine congrArg (files.place path >>= ·) (funext fun lies => ?_)
  obtain ⟨old, hold, hnew, -⟩ | ⟨-, hsame⟩ := h.cases_at? bytes lies
  · rw [hold, hnew]
  · rw [hsame, hnames]

/-! ### Creating directories -/

theorem adding_adding (h : files.HasFile place) (hother : other ≠ place) :
    (files.adding place (.file bytes)).adding other node =
      (files.adding other node).adding place (.file bytes) := by
  rw [adding, adding, adding, adding, put_put h.mem hother]

theorem createDirectory_replaced (h : files.HasFile place) (bytes : ByteArray) (path : String) :
    (files.adding place (.file bytes)).createDirectory path =
      (·.adding place (.file bytes)) <$> files.createDirectory path := by
  rw [createDirectory, createDirectory, site_replaced h]
  cases files.site path with
  | error fault => rfl
  | ok lies =>
      simp only [ok_bind]
      obtain ⟨old, hold, hnew, -⟩ | ⟨hne, hsame⟩ := h.cases_at? bytes lies
      · rw [hold, hnew]
        rfl
      · rw [hsame]
        cases files.at? lies with
        | some node => rfl
        | none => exact congrArg Except.ok (adding_adding h hne)

theorem ensureDirectory_replaced (h : files.HasFile place) (bytes : ByteArray) (path : String) :
    (files.adding place (.file bytes)).ensureDirectory path =
      (·.adding place (.file bytes)) <$> files.ensureDirectory path := by
  rw [ensureDirectory, ensureDirectory, createDirectory_replaced h, isDirectory_replaced h]
  cases files.createDirectory path with
  | ok made => rfl
  | error fault => cases files.isDirectory path <;> rfl

/-- **Creating directories and replacing bytes can be exchanged.** -/
theorem createFrom_replaced (h : files.HasFile place) (bytes : ByteArray) (fuel : ℕ) :
    ∀ path : String, (files.adding place (.file bytes)).createFrom fuel path =
      ((files.createFrom fuel path).1.adding place (.file bytes), (files.createFrom fuel path).2) := by
  induction fuel with
  | zero => exact fun path => rfl
  | succ fuel ih =>
      intro path
      rw [createFrom, createFrom, ensureDirectory_replaced h]
      split
      · rfl
      · cases files.ensureDirectory path with
        | ok made => rfl
        | error fault =>
            cases fault with
            | notFound =>
                simp only [error_map]
                cases hparent : Path.parent? path with
                | none => rfl
                | some parent =>
                    -- the file is still there once the directories above have been created
                    have habove := h.extends (extends_createFrom fuel parent)
                    simp only
                    rw [ih parent]
                    generalize files.createFrom fuel parent = created at habove
                    rcases created with ⟨above, fault | _⟩
                    · rfl
                    · simp only
                      rw [ensureDirectory_replaced habove]
                      cases above.ensureDirectory path <;> rfl
            | _ => rfl

theorem afterCreating_replaced (h : files.HasFile place) (bytes : ByteArray) (path : String) :
    (files.adding place (.file bytes)).afterCreating path =
      (files.afterCreating path).adding place (.file bytes) := by
  rw [afterCreating, createFrom_replaced h]
  rfl

theorem createDirectories_replaced (h : files.HasFile place) (bytes : ByteArray) (path : String) :
    (files.adding place (.file bytes)).createDirectories path =
      (·.adding place (.file bytes)) <$> files.createDirectories path := by
  rw [createDirectories, createDirectories, afterCreating_replaced h, createFrom_replaced h]
  cases (files.createFrom (path.length + 1) path).2 <;> rfl

end Files

end Conform
