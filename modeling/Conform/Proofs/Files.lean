/-
**What lies in a directory.**

A path that leads to a name in a directory leads to the directory first, whatever the text of the
directory's path is.  So within a directory that is there, a name decides by itself whether it leads
anywhere: it must not be too long, and no character of it may be of code zero.

A change of the files that only adds to them keeps every path where it led.  Writing to a place where
there is nothing adds to the files.

Main definitions:

* `Path.IsName` — a text that can be a name in a directory;
* `Files.misfit?` — why a name leads nowhere;
* `Files.Extends` — nothing of the files has changed, but more may be there.

Main results:

* `Files.place_join` — **where a name in a directory leads**;
* `Files.Extends.find` — what is found stays where it is found;
* `Files.write_new` — **a file that is written under a new name is all that changes in a directory**.
-/

import Conform.Files.Basic
import Conform.Proofs.Result
import Mathlib

set_option relaxedAutoImplicit false
set_option autoImplicit false

namespace Conform

/-! ### Paths -/

namespace Path

/-- A text that can be a name in a directory: it has no slash, and it does not stand for a directory
by itself. -/
structure IsName (name : String) : Prop where
  noSlash : '/' ∉ name.toList
  ne_empty : name ≠ ""
  ne_point : name ≠ "."
  ne_points : name ≠ ".."

theorem stretches_of_noSlash {cs : List Char} (h : '/' ∉ cs) : stretches cs = [cs] := by
  induction cs with
  | nil => rfl
  | cons c rest ih =>
      obtain ⟨hc, hrest⟩ := not_or.1 (List.mem_cons.not.1 h)
      rw [stretches, if_neg (Ne.symm hc), ih hrest]

theorem stretches_ne_nil (cs : List Char) : stretches cs ≠ [] := by
  cases cs with
  | nil => simp [stretches]
  | cons c rest =>
      rw [stretches]
      split
      · simp
      · split <;> simp

theorem stretches_append (cs ds : List Char) :
    stretches (cs ++ '/' :: ds) = stretches cs ++ stretches ds := by
  induction cs with
  | nil => rfl
  | cons c rest ih =>
      rw [List.cons_append, stretches, stretches, ih]
      split
      · rfl
      · cases hrest : stretches rest with
        | nil => exact absurd hrest (stretches_ne_nil rest)
        | cons name more => rfl

/-- Names are trimmed by the loss of empty ones. -/
theorem exists_trimmed (names : List String) :
    ∃ count, names = trimmed names ++ List.replicate count "" := by
  induction names with
  | nil => exact ⟨0, rfl⟩
  | cons name rest ih =>
      obtain ⟨count, hrest⟩ := ih
      rw [trimmed]
      cases htrimmed : trimmed rest with
      | nil =>
          rw [htrimmed] at hrest
          simp only
          split
          · next hname => exact ⟨count + 1, by rw [hname, hrest]; simp [List.replicate_succ]⟩
          · exact ⟨count, by rw [hrest]; rfl⟩
      | cons next more =>
          rw [htrimmed] at hrest
          exact ⟨count, congrArg (name :: ·) hrest⟩

variable {directory name : String}

theorem IsName.not_absolute (h : IsName name) : isAbsolute name = false := by
  rw [isAbsolute, decide_eq_false_iff_not]
  exact fun hhead => h.noSlash (List.mem_of_head? hhead)

theorem join_eq (hname : IsName name) (hne : directory ≠ "") : join directory name =
    if directory.toList.getLast? = some '/' then directory ++ name else directory ++ "/" ++ name := by
  rw [join, if_neg]
  simp [hname.not_absolute, hne]

/-- In the path of a name, the name stands behind the path of the directory, which may have a slash at
its end. -/
theorem stretches_join (hname : IsName name) (hne : directory ≠ "") :
    ∃ front, stretches (join directory name).toList = front ++ [name.toList] ∧
      (stretches directory.toList = front ∨ stretches directory.toList = front ++ [[]]) := by
  rw [join_eq hname hne]
  split
  · next hslash =>
      obtain ⟨cs, hcs⟩ := List.getLast?_eq_some_iff.1 hslash
      refine ⟨stretches cs, ?_, .inr ?_⟩
      · have htext : (directory ++ name).toList = cs ++ '/' :: name.toList := by simp [hcs]
        rw [htext, stretches_append, stretches_of_noSlash hname.noSlash]
      · rw [hcs, stretches_append]
        rfl
  · refine ⟨stretches directory.toList, ?_, .inl rfl⟩
    have htext : (directory ++ "/" ++ name).toList = directory.toList ++ '/' :: name.toList := by simp
    rw [htext, stretches_append, stretches_of_noSlash hname.noSlash]

/-- The path of a name begins as the path of the directory, and is longer. -/
theorem join_begins (hname : IsName name) (hne : directory ≠ "") :
    ∃ rest, join directory name = directory ++ rest ∧
      (rest.toList.contains '\x00' = name.toList.contains '\x00') := by
  rw [join_eq hname hne]
  split
  · exact ⟨name, rfl, rfl⟩
  · refine ⟨"/" ++ name, String.append_assoc, ?_⟩
    simp

theorem isAbsolute_append (hne : directory ≠ "") (rest : String) :
    isAbsolute (directory ++ rest) = isAbsolute directory := by
  rw [isAbsolute, isAbsolute, String.toList_append, List.head?_append_of_ne_nil]
  simpa using hne

end Path

namespace Files

variable {files later : Files} {place : List String} {path directory name text : String}

/-! ### Where names lead -/

theorem at?_of_follow {start : List String} {names : List String}
    (h : files.follow start (name :: names) = .ok place) : files.at? start = some .directory := by
  rw [follow] at h
  split at h
  · cases h
  · cases h
  · next hdirectory => exact hdirectory

/-- To follow names is to follow the first of them, and then the others. -/
theorem follow_append (files : Files) (names rest : List String) : ∀ place : List String,
    files.follow place (names ++ rest) = files.follow place names >>= (files.follow · rest) := by
  induction names with
  | nil => exact fun place => rfl
  | cons name names ih =>
      intro place
      rw [List.cons_append, follow, follow]
      split
      · rfl
      · rfl
      · split
        · exact ih place
        · split
          · exact ih place.dropLast
          · split
            · rfl
            · exact ih (place ++ [name])

/-- A name leads from a directory to its place there, if it is not too long. -/
theorem follow_name (hname : Path.IsName name) (hdirectory : files.at? place = some .directory) :
    files.follow place [name] =
      if nameLimit < name.utf8ByteSize then .error .nameTooLong else .ok (place ++ [name]) := by
  rw [follow, hdirectory]
  simp only [hname.ne_empty, hname.ne_point, hname.ne_points, or_self, if_false, follow]

/-- An empty name leads from a directory nowhere else. -/
theorem follow_empty_eq_ok {before : List String} (h : files.follow before [""] = .ok place) :
    before = place := by
  rw [follow] at h
  split at h
  · cases h
  · cases h
  · exact Except.ok.inj h

/-- Why a name in a directory leads nowhere. -/
def misfit? (directory name : String) : Option FileFault :=
  if name.toList.contains '\x00' then some .nulInName
  else if pathLimit < (Path.join directory name).utf8ByteSize then some .nameTooLong
  else if nameLimit < name.utf8ByteSize then some .nameTooLong
  else none

/-- Empty names lead from a directory nowhere else. -/
theorem follow_blanks (hdirectory : files.at? place = some .directory) (count : ℕ) :
    files.follow place (List.replicate count "") = .ok place := by
  induction count with
  | zero => rfl
  | succ count ih =>
      rw [List.replicate_succ, follow, hdirectory]
      exact (if_pos (.inl rfl)).trans ih

/-- Names of a path lead somewhere if it is one, and if they do. -/
theorem reach_eq_ok {names : List String} : files.reach path names = .ok place ↔
    path.toList.contains '\x00' = false ∧ path ≠ "" ∧ path.utf8ByteSize ≤ pathLimit ∧
      files.follow (if Path.isAbsolute path then [] else files.here) names = .ok place := by
  rw [reach]
  by_cases hnul : path.toList.contains '\x00'
  · rw [if_pos hnul, hnul]
    simp
  · by_cases hne : path = ""
    · rw [if_neg hnul, if_pos hne]
      simp [hne]
    · by_cases hlimit : pathLimit < path.utf8ByteSize
      · rw [if_neg hnul, if_neg hne, if_pos hlimit]
        simp [Nat.not_le.2 hlimit]
      · rw [if_neg hnul, if_neg hne, if_neg hlimit, and_iff_right (by simpa using hnul),
          and_iff_right hne, and_iff_right (Nat.not_lt.1 hlimit)]

/-- A path leads somewhere if it is one, and if its names do. -/
theorem place_eq_ok : files.place path = .ok place ↔
    path.toList.contains '\x00' = false ∧ path ≠ "" ∧ path.utf8ByteSize ≤ pathLimit ∧
      files.follow (if Path.isAbsolute path then [] else files.here)
        ((Path.stretches path.toList).map String.ofList) = .ok place :=
  reach_eq_ok

/-- Where a path leads to something, this is where it would have a directory created. -/
theorem site_of_find {node : Node} (h : files.find path = .ok node) :
    ∃ place, files.site path = .ok place ∧ files.at? place = some node := by
  rw [find] at h
  split at h
  · cases h
  · next place hplace =>
      split at h
      · next hnode =>
          obtain ⟨hnul, hne, hlimit, hfollow⟩ := reach_eq_ok.1 hplace
          obtain ⟨count, hnames⟩ := Path.exists_trimmed (Path.names path)
          rw [hnames, follow_append] at hfollow
          obtain ⟨before, hbefore, hblanks⟩ := bind_eq_ok.1 hfollow
          have hsame : before = place := by
            cases count with
            | zero => exact Except.ok.inj hblanks
            | succ count =>
                have hdirectory := at?_of_follow hblanks
                rw [follow_blanks hdirectory] at hblanks
                exact Except.ok.inj hblanks
          obtain rfl := Except.ok.inj h
          exact ⟨place, reach_eq_ok.2 ⟨hnul, hne, hlimit, hsame ▸ hbefore⟩, hnode⟩
      · cases h

/-- **Where a name in a directory leads**: to its place in the directory, unless it does not fit. -/
theorem place_join (hname : Path.IsName name) (hplace : files.place directory = .ok place)
    (hdirectory : files.at? place = some .directory) : files.place (Path.join directory name) =
      match misfit? directory name with
      | some fault => .error fault
      | none => .ok (place ++ [name]) := by
  obtain ⟨hnul, hne, -, hfollow⟩ := place_eq_ok.1 hplace
  obtain ⟨front, hjoined, hfront⟩ := Path.stretches_join hname hne
  obtain ⟨rest, hrest, hnul'⟩ := Path.join_begins hname hne
  -- the stretches in front of the name lead to the directory
  have hbefore : files.follow (if Path.isAbsolute directory then [] else files.here)
      (front.map String.ofList) = .ok place := by
    rcases hfront with hfront | hfront
    · rwa [hfront] at hfollow
    · rw [hfront, List.map_append, follow_append] at hfollow
      obtain ⟨before, hbefore, hlast⟩ := bind_eq_ok.1 hfollow
      rw [hbefore, follow_empty_eq_ok hlast]
  have hleads : files.follow (if Path.isAbsolute (Path.join directory name) then [] else files.here)
      ((Path.stretches (Path.join directory name).toList).map String.ofList) =
        if nameLimit < name.utf8ByteSize then .error .nameTooLong else .ok (place ++ [name]) := by
    rw [hjoined, List.map_append, follow_append, hrest, Path.isAbsolute_append hne, hbefore, ok_bind,
      List.map_singleton, String.ofList_toList, follow_name hname hdirectory]
  have hcontains : (Path.join directory name).toList.contains '\x00' =
      name.toList.contains '\x00' := by
    rw [hrest, String.toList_append, List.contains_append, hnul, hnul', Bool.false_or]
  have hempty : Path.join directory name ≠ "" := by
    rw [hrest]
    simp [hne]
  rw [Files.place, reach, Path.names, hcontains, if_neg hempty, hleads, misfit?]
  split
  · rfl
  · split
    · rfl
    · split <;> rfl

/-- What is found under a name in a directory. -/
theorem find_join (hname : Path.IsName name) (hplace : files.place directory = .ok place)
    (hdirectory : files.at? place = some .directory) : files.find (Path.join directory name) =
      match misfit? directory name with
      | some fault => .error fault
      | none =>
        match files.at? (place ++ [name]) with
        | some node => .ok node
        | none => .error .notFound := by
  rw [find, place_join hname hplace hdirectory]
  cases misfit? directory name <;> rfl

/-! ### What lies in a directory -/

theorem list_eq_ok {names : List String} : files.list directory = .ok names ↔
    ∃ place, files.place directory = .ok place ∧ files.at? place = some .directory ∧
      files.namesIn place = names := by
  rw [list, bind_eq_ok]
  refine exists_congr fun place => and_congr_right fun _ => ?_
  split
  · next h => simp [h]
  · next h => simp [h]
  · next h => simp [h]

/-- The name of a place in a directory, if it is one. -/
theorem nameIn_eq_some {lies : List String} :
    (match lies.reverse with
      | name :: above => if above.reverse = place then some name else none
      | [] => none) = some name ↔ lies = place ++ [name] := by
  rcases List.eq_nil_or_concat lies with rfl | ⟨above, last, rfl⟩
  · simp
  · simp only [List.concat_eq_append, List.reverse_append, List.reverse_cons, List.reverse_nil,
      List.nil_append, List.singleton_append, List.reverse_reverse, Option.ite_none_right_eq_some,
      Option.some.injEq]
    constructor
    · rintro ⟨rfl, rfl⟩
      rfl
    · intro h
      obtain ⟨habove, hlast⟩ := List.append_inj' h rfl
      exact ⟨habove, List.head_eq_of_cons_eq hlast⟩

/-- The names in a directory are those under which something lies there. -/
theorem mem_namesIn : name ∈ files.namesIn place ↔ (files.at? (place ++ [name])).isSome := by
  have hne : place ++ [name] ≠ [] := by simp
  rw [at?, if_neg hne, namesIn, List.mem_filterMap, List.lookup_isSome_iff]
  refine exists_congr fun entry => and_congr_right fun _ => ?_
  exact nameIn_eq_some.trans (eq_comm.trans beq_iff_eq.symm)

/-! ### Adding to the files -/

/-- Nothing of the files has changed, but more may be there. -/
structure Extends (files later : Files) : Prop where
  here : later.here = files.here
  keeps : ∀ place node, files.at? place = some node → later.at? place = some node

theorem Extends.refl (files : Files) : Extends files files := ⟨rfl, fun _ _ h => h⟩

theorem Extends.trans {last : Files} (h : Extends files later) (h' : Extends later last) :
    Extends files last :=
  ⟨h'.here.trans h.here, fun place node hnode => h'.keeps place node (h.keeps place node hnode)⟩

/-- Where names lead, they lead after an addition. -/
theorem Extends.follow (h : Extends files later) {names : List String} :
    ∀ {start : List String}, files.follow start names = .ok place →
      later.follow start names = .ok place := by
  induction names with
  | nil => exact fun hfollow => hfollow
  | cons name rest ih =>
      intro start hfollow
      rw [Files.follow] at hfollow ⊢
      split at hfollow
      · cases hfollow
      · cases hfollow
      · next hdirectory =>
          rw [h.keeps _ _ hdirectory]
          simp only
          split at hfollow
          · next hidle => exact (if_pos hidle).trans (ih hfollow)
          · next hidle =>
              rw [if_neg hidle]
              split at hfollow
              · next hup => exact (if_pos hup).trans (ih hfollow)
              · next hup =>
                  rw [if_neg hup]
                  split at hfollow
                  · cases hfollow
                  · next hlimit => exact (if_neg hlimit).trans (ih hfollow)

theorem Extends.place_eq (h : Extends files later) (hplace : files.place path = .ok place) :
    later.place path = .ok place := by
  obtain ⟨hnul, hne, hlimit, hfollow⟩ := place_eq_ok.1 hplace
  exact place_eq_ok.2 ⟨hnul, hne, hlimit, h.here ▸ h.follow hfollow⟩

/-- **What is found stays where it is found.** -/
theorem Extends.find (h : Extends files later) {node : Node} (hfind : files.find path = .ok node) :
    later.find path = .ok node := by
  rw [Files.find] at hfind ⊢
  split at hfind
  · cases hfind
  · next place hplace =>
      rw [h.place_eq hplace]
      simp only
      split at hfind
      · next hnode =>
          rw [h.keeps _ _ hnode]
          exact hfind
      · cases hfind

theorem pathExists_iff : files.pathExists path = true ↔ ∃ node, files.find path = .ok node := by
  rw [pathExists]
  cases files.find path <;> simp [Except.toOption]

theorem isDirectory_iff : files.isDirectory path = true ↔ files.find path = .ok .directory := by
  rw [isDirectory]
  split
  · next h => simp [h]
  · next h => simpa using h

theorem isFile_iff : files.isFile path = true ↔ ∃ bytes, files.find path = .ok (.file bytes) := by
  rw [isFile]
  split
  · next h => simp [h]
  · next h => simpa using h

theorem Extends.pathExists (h : Extends files later) (hexists : files.pathExists path = true) :
    later.pathExists path = true := by
  obtain ⟨node, hnode⟩ := pathExists_iff.1 hexists
  exact pathExists_iff.2 ⟨node, h.find hnode⟩

/-! ### New files and directories -/

/-- The files with one more, or with another one in its place. -/
def adding (files : Files) (place : List String) (node : Node) : Files :=
  { files with nodes := put place node files.nodes }

theorem lookup_put {α : Type} (place : List String) (node : α) (nodes : List (List String × α))
    (other : List String) : (put place node nodes).lookup other =
      if other = place then some node else nodes.lookup other := by
  have hcons : ∀ (entry : List String × α) (rest : List (List String × α)),
      (entry :: rest).lookup other = if other = entry.1 then some entry.2 else rest.lookup other := by
    intro entry rest
    rw [List.lookup_cons, beq_eq_decide]
    split <;> simp_all
  induction nodes with
  | nil => exact hcons (place, node) []
  | cons entry rest ih =>
      rw [put]
      split
      · next heq =>
          rw [hcons, hcons, heq]
          split <;> rfl
      · next hne =>
          rw [hcons, hcons, ih]
          split
          · next hother => rw [if_neg (hother ▸ hne)]
          · rfl

theorem at?_adding (files : Files) {place : List String} (hplace : place ≠ []) (node : Node)
    (other : List String) : (files.adding place node).at? other =
      if other = place then some node else files.at? other := by
  rw [at?, at?, adding, lookup_put]
  split
  · next hroot =>
      rw [if_neg]
      rintro rfl
      exact hplace hroot
  · rfl

/-- Where there is nothing, anything may be added. -/
theorem extends_adding (hplace : files.at? place = none) (node : Node) :
    Extends files (files.adding place node) := by
  have hne : place ≠ [] := by
    rintro rfl
    simp [at?] at hplace
  refine ⟨rfl, fun other found hfound => ?_⟩
  rw [at?_adding files hne, if_neg]
  · exact hfound
  · rintro rfl
    rw [hplace] at hfound
    cases hfound

/-- What is added to a directory is listed behind what lies there. -/
theorem namesIn_adding (hname : files.at? (place ++ [name]) = none) (node : Node) :
    (files.adding (place ++ [name]) node).namesIn place = files.namesIn place ++ [name] := by
  have hput : ∀ nodes : List (List String × Node), nodes.lookup (place ++ [name]) = none →
      put (place ++ [name]) node nodes = nodes ++ [(place ++ [name], node)] := by
    intro nodes
    induction nodes with
    | nil => exact fun _ => rfl
    | cons entry rest ih =>
        intro hlookup
        rw [List.lookup_eq_none_iff] at hlookup ih
        obtain ⟨hentry, hrest⟩ := List.forall_mem_cons.1 hlookup
        have hne : entry.1 ≠ place ++ [name] := (bne_iff_ne.1 hentry).symm
        rw [put, if_neg hne, ih hrest, List.cons_append]
  have hne : place ++ [name] ≠ [] := by simp
  rw [at?, if_neg hne] at hname
  rw [namesIn, adding, hput _ hname, List.filterMap_append, namesIn]
  congr 1
  exact List.filterMap_cons_some (nameIn_eq_some.2 rfl)

/-- What a change of the file system by one directory or file does, if it succeeds. -/
theorem createDirectory_eq_ok {made : Files} : files.createDirectory path = .ok made ↔
    ∃ place, files.site path = .ok place ∧ files.at? place = none ∧
      files.adding place .directory = made := by
  rw [createDirectory, bind_eq_ok]
  refine exists_congr fun place => and_congr_right fun _ => ?_
  split
  · next h => simp [h]
  · next h => simp [h, adding]

theorem write_eq_ok {written : Files} : files.write path text = .ok written ↔
    ∃ place, files.place path = .ok place ∧ files.at? place ≠ some .directory ∧
      files.adding place (.file text.toUTF8) = written := by
  rw [write, bind_eq_ok]
  refine exists_congr fun place => and_congr_right fun _ => ?_
  split
  · next h => simp [h]
  · next h =>
      rw [and_iff_right h, Except.ok.injEq]
      rfl

theorem isDirectory_of_list {names : List String} (h : files.list directory = .ok names) :
    files.isDirectory directory = true := by
  obtain ⟨place, hplace, hdirectory, -⟩ := list_eq_ok.1 h
  rw [isDirectory_iff, find, hplace]
  simp only [hdirectory]

theorem pathExists_of_list {names : List String} (h : files.list directory = .ok names) :
    files.pathExists directory = true :=
  pathExists_iff.2 ⟨.directory, isDirectory_iff.1 (isDirectory_of_list h)⟩

/-- **A file that is written under a new name is all that changes in a directory.** -/
theorem write_new {names : List String} (hlist : files.list directory = .ok names)
    (hname : Path.IsName name) (hnew : name ∉ names) (hfits : misfit? directory name = none)
    (text : String) :
    ∃ written, files.write (Path.join directory name) text = .ok written ∧
      written.list directory = .ok (names ++ [name]) ∧
      written.find (Path.join directory name) = .ok (.file text.toUTF8) ∧
      ∀ other, Path.IsName other → other ≠ name →
        written.find (Path.join directory other) = files.find (Path.join directory other) := by
  obtain ⟨place, hplace, hdirectory, rfl⟩ := list_eq_ok.1 hlist
  have hnothing : files.at? (place ++ [name]) = none := by
    rw [mem_namesIn, Option.not_isSome_iff_eq_none] at hnew
    exact hnew
  have hleads : files.place (Path.join directory name) = .ok (place ++ [name]) := by
    rw [place_join hname hplace hdirectory, hfits]
  have hne : place ++ [name] ≠ [] := by simp
  have hextends := extends_adding hnothing (.file text.toUTF8)
  have hplace' := hextends.place_eq hplace
  have hdirectory' := hextends.keeps _ _ hdirectory
  refine ⟨_, write_eq_ok.2 ⟨_, hleads, by simp [hnothing], rfl⟩, ?_, ?_, ?_⟩
  · exact list_eq_ok.2 ⟨place, hplace', hdirectory', namesIn_adding hnothing _⟩
  · rw [find_join hname hplace' hdirectory', hfits, at?_adding files hne, if_pos rfl]
  · intro other hother hdiffers
    have hplaces : place ++ [other] ≠ place ++ [name] := by simpa using hdiffers
    rw [find_join hother hplace' hdirectory', find_join hother hplace hdirectory,
      at?_adding files hne, if_neg hplaces]

/-- A name that does not fit cannot be written to. -/
theorem write_misfit {names : List String} {fault : FileFault}
    (hlist : files.list directory = .ok names) (hname : Path.IsName name)
    (hmisfit : misfit? directory name = some fault) (text : String) :
    files.write (Path.join directory name) text = .error fault := by
  obtain ⟨place, hplace, hdirectory, -⟩ := list_eq_ok.1 hlist
  rw [write, place_join hname hplace hdirectory, hmisfit]
  rfl

/-- Under a name something is found exactly if it is listed and fits. -/
theorem pathExists_join {names : List String} (hlist : files.list directory = .ok names)
    (hname : Path.IsName name) : files.pathExists (Path.join directory name) = true ↔
      name ∈ names ∧ misfit? directory name = none := by
  obtain ⟨place, hplace, hdirectory, rfl⟩ := list_eq_ok.1 hlist
  rw [pathExists_iff, find_join hname hplace hdirectory, mem_namesIn, Option.isSome_iff_exists]
  cases misfit? directory name with
  | some fault => simp
  | none => cases files.at? (place ++ [name]) <;> simp

end Files

end Conform
