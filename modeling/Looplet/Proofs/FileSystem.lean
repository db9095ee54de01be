import Looplet.FileSystem
import Mathlib.Data.Nat.Bitwise

/-!
# What writing a file changes

A path is resolved from part to part (`Leads`). Where an entry is set at a place that was free, or
was taken by another of its kind with no other rights (`Sets`), every path that led somewhere still
leads there (`Sets.locate`), and what a path finds at another place is what it found before
(`Sets.find`). Among directories, plain files and links, writing a file sets one entry like that and
leaves all others as they are (`sets_of_write`).
-/

namespace Looplet

/-! ## Entries -/

/-- The number of the bit of an access in a mode. -/
def Access.index : Access → Nat
  | .read => 2
  | .write => 1
  | .execute => 0

theorem Access.bit_eq (a : Access) : a.bit = 2 ^ a.index := by
  cases a <;> rfl

theorem Entry.allows_eq (e : Entry) (a : Access) :
    e.allows a = e.mode.testBit (a.index + if e.own then 6 else 0) := by
  have hbit (n : Nat) : (decide (n &&& 2 ^ a.index ≠ 0)) = n.testBit a.index := by
    rw [Nat.and_two_pow]
    cases n.testBit a.index <;> simp
  rw [allows, a.bit_eq, hbit]
  cases e.own with
  | false => rfl
  | true =>
    have hshift : (e.mode / 2 ^ 6).testBit a.index = e.mode.testBit (a.index + 6) :=
      Nat.testBit_div_two_pow ..
    exact hshift

/-- A file with other bytes keeps the rights to read, to write and to execute. -/
theorem Entry.testBit_refilled (e : Entry) (bytes : ByteArray) {i : Nat} (hi : i < 10) :
    (e.refilled bytes).mode.testBit i = e.mode.testBit i := by
  have hmask (n : Nat) (hn : 10 ≤ n) : (2 ^ n - 1).testBit i = true := by
    rw [Nat.testBit_two_pow_sub_one]
    exact decide_eq_true (by omega)
  have hset : Nat.testBit 0o3777 i = true := hmask 11 (by omega)
  have hunset : Nat.testBit 0o1777 i = true := hmask 10 (by omega)
  rw [refilled]
  split <;> simp only [Nat.testBit_and, hset, hunset, Bool.and_true]

theorem Entry.allows_refilled (e : Entry) (bytes : ByteArray) (a : Access) :
    (e.refilled bytes).allows a = e.allows a := by
  rw [allows_eq, allows_eq]
  refine e.testBit_refilled bytes ?_
  cases a <;> simp only [Access.index] <;> split <;> omega

section Content

variable {e : Entry}

theorem Entry.target?_of_isFile (h : e.isFile = true) : e.target? = none := by
  rw [isFile] at h
  rw [target?]
  cases hcontent : e.content <;> simp_all

theorem Entry.isDirectory_of_isFile (h : e.isFile = true) : e.isDirectory = false := by
  rw [isFile] at h
  rw [isDirectory]
  cases hcontent : e.content <;> simp_all

theorem Entry.target?_of_isDirectory (h : e.isDirectory = true) : e.target? = none := by
  rw [isDirectory] at h
  rw [target?]
  cases hcontent : e.content <;> simp_all

end Content

namespace FileSystem

variable {fs fs' : FileSystem} {p : Place} {new : Entry}

/-! ## Places -/

/-- The second file system is the first one with an entry set at a place. The place was free, and no
path goes on from the entry; or it was taken by another one of its kind, with no other rights than
those that the entry has. -/
structure Sets (fs fs' : FileSystem) (p : Place) (new : Entry) : Prop where
  cwd : fs'.cwd = fs.cwd
  get?_place : fs'.get? p = some new
  free : fs.get? p = none → new.target? = none ∧ new.isDirectory = false
  taken : ∀ e, fs.get? p = some e → new.target? = e.target? ∧
    new.isDirectory = e.isDirectory ∧ ∀ a, e.allows a = true → new.allows a = true
  get?_of_ne : ∀ q, q ≠ p → fs'.get? q = fs.get? q

/-- A target after an entry is set at a place. -/
def Target.after (p : Place) (new : Entry) : Target → Target
  | entry q e => entry q (if q = p then new else e)
  | free q => if q = p then entry q new else free q

/-- A target is what stands at its place. -/
def Target.Stands (fs : FileSystem) : Target → Prop
  | entry q e => fs.get? q = some e
  | free q => fs.get? q = none

section Sets

variable (h : Sets fs fs' p new)
include h

theorem Sets.get?_eq {q : Place} {e : Entry} (hq : fs.get? q = some e) :
    fs'.get? q = some (if q = p then new else e) := by
  by_cases hplace : q = p
  · rw [if_pos hplace, hplace, h.get?_place]
  · rw [if_neg hplace, h.get?_of_ne q hplace, hq]

theorem Sets.target?_eq {q : Place} {e : Entry} (hq : fs.get? q = some e) :
    (if q = p then new else e).target? = e.target? := by
  split
  · next hplace => exact (h.taken e (hplace ▸ hq)).1
  · rfl

theorem Sets.isDirectory_eq {q : Place} {e : Entry} (hq : fs.get? q = some e) :
    (if q = p then new else e).isDirectory = e.isDirectory := by
  split
  · next hplace => exact (h.taken e (hplace ▸ hq)).2.1
  · rfl

theorem Sets.allows {q : Place} {a : Access} (hq : fs.allows q a = true) :
    fs'.allows q a = true := by
  unfold FileSystem.allows at hq ⊢
  cases he : fs.get? q with
  | none => simp [he] at hq
  | some e =>
    rw [he] at hq
    rw [h.get?_eq he]
    by_cases hplace : q = p
    · subst hplace
      simpa using (h.taken e he).2.2 a hq
    · simpa [hplace] using hq

end Sets

/-! ## Paths -/

/-- A part of a path that names an entry of a directory. -/
def IsName (part : String) : Prop :=
  part ≠ "." ∧ part ≠ ".." ∧ part.utf8ByteSize ≤ 255

/-- From a directory, parts lead to a target through less than a number of links. -/
inductive Leads (fs : FileSystem) : Nat → Place → List String → Target → Prop where
  | here {links : Nat} {here : Place} {e : Entry} (he : fs.get? here = some e) :
    Leads fs (links + 1) here [] (.entry here e)
  | dot {links : Nat} {here : Place} {rest : List String} {t : Target}
    (hsearch : fs.allows here .execute = true) (h : Leads fs (links + 1) here rest t) :
    Leads fs (links + 1) here ("." :: rest) t
  | up {links : Nat} {here : Place} {rest : List String} {t : Target}
    (hsearch : fs.allows here .execute = true) (h : Leads fs (links + 1) here.dropLast rest t) :
    Leads fs (links + 1) here (".." :: rest) t
  | into {links : Nat} {here : Place} {part : String} {rest : List String} {e : Entry} {t : Target}
    (hsearch : fs.allows here .execute = true) (hname : IsName part)
    (he : fs.get? (here ++ [part]) = some e) (hdirectory : e.isDirectory = true)
    (h : Leads fs (links + 1) (here ++ [part]) rest t) :
    Leads fs (links + 1) here (part :: rest) t
  | through {links : Nat} {here : Place} {part target : String} {rest : List String} {e : Entry}
    {t : Target} (hsearch : fs.allows here .execute = true) (hname : IsName part)
    (he : fs.get? (here ++ [part]) = some e) (htarget : e.target? = some target)
    (hne : target ≠ "")
    (h : Leads fs links (if isAbsolute target then [] else here) (allParts target ++ rest) t) :
    Leads fs (links + 1) here (part :: rest) t
  | last {links : Nat} {here : Place} {part : String} {e : Entry}
    (hsearch : fs.allows here .execute = true) (hname : IsName part)
    (he : fs.get? (here ++ [part]) = some e) (htarget : e.target? = none)
    (hdirectory : e.isDirectory = false) :
    Leads fs (links + 1) here [part] (.entry (here ++ [part]) e)
  | free {links : Nat} {here : Place} {part : String}
    (hsearch : fs.allows here .execute = true) (hname : IsName part)
    (he : fs.get? (here ++ [part]) = none) :
    Leads fs (links + 1) here [part] (.free (here ++ [part]))

theorem leads_of_walk {links : Nat} {here : Place} {ps : List String} {t : Target}
    (h : fs.walk true links here ps = .ok t) : fs.Leads links here ps t := by
  induction links generalizing here ps with
  | zero => cases h
  | succ links ih =>
    rw [walk] at h
    induction ps generalizing here with
    | nil =>
      rw [walkWith] at h
      split at h
      · next e he =>
        cases h
        exact .here he
      · cases h
    | cons part rest ihps =>
      -- the tests come in the order of the walk, each with the way out that it decides
      rw [walkWith] at h
      split at h
      · cases h
      next hsearch =>
      rw [Bool.not_eq_true', Bool.not_eq_false] at hsearch
      split at h
      · next hdot =>
        rw [hdot]
        exact .dot hsearch (ihps h)
      next hdot =>
      split at h
      · next hup =>
        rw [hup]
        exact .up hsearch (ihps h)
      next hup =>
      split at h
      · cases h
      next hlength =>
      have hname : IsName part := ⟨hdot, hup, Nat.le_of_not_lt hlength⟩
      split at h
      · next e he =>
        split at h
        · next target htarget =>
          simp only [Bool.not_true, Bool.and_false, Bool.false_eq_true, if_false] at h
          split at h
          · cases h
          next hne => exact .through hsearch hname he htarget hne (ih h)
        next htarget =>
        split at h
        · next hdirectory => exact .into hsearch hname he hdirectory (ihps h)
        next hdirectory =>
        split at h
        · next hrest =>
          cases h
          rw [hrest]
          exact .last hsearch hname he htarget (Bool.eq_false_of_not_eq_true hdirectory)
        · cases h
      next he =>
      split at h
      · next hrest =>
        cases h
        rw [hrest]
        exact .free hsearch hname he
      · cases h

theorem walk_of_leads {links : Nat} {here : Place} {ps : List String} {t : Target}
    (h : fs.Leads links here ps t) : fs.walk true links here ps = .ok t := by
  induction h with
  | here he => rw [walk, walkWith, he]
  | dot hsearch h ih =>
    rw [walk] at ih ⊢
    simp [walkWith, hsearch, ih]
  | up hsearch h ih =>
    rw [walk] at ih ⊢
    simp [walkWith, hsearch, ih]
  | into hsearch hname he hdirectory h ih =>
    rw [walk] at ih ⊢
    simp [walkWith, hsearch, hname.1, hname.2.1, Nat.not_lt.mpr hname.2.2, he,
      Entry.target?_of_isDirectory hdirectory, hdirectory, ih]
  | through hsearch hname he htarget hne h ih =>
    simp [walk, walkWith, hsearch, hname.1, hname.2.1, Nat.not_lt.mpr hname.2.2, he, htarget, hne,
      ih]
  | last hsearch hname he htarget hdirectory =>
    simp [walk, walkWith, hsearch, hname.1, hname.2.1, Nat.not_lt.mpr hname.2.2, he, htarget,
      hdirectory]
  | free hsearch hname he =>
    simp [walk, walkWith, hsearch, hname.1, hname.2.1, Nat.not_lt.mpr hname.2.2, he]

/-- What a walk gives stands at its place, whether a link at the end is followed or not. -/
theorem stands_of_walk {followLast : Bool} {links : Nat} {here : Place} {ps : List String}
    {t : Target} (h : fs.walk followLast links here ps = .ok t) : t.Stands fs := by
  induction links generalizing here ps with
  | zero => cases h
  | succ links ih =>
    rw [walk] at h
    induction ps generalizing here with
    | nil =>
      rw [walkWith] at h
      split at h
      · next e he =>
        cases h
        exact he
      · cases h
    | cons part rest ihps =>
      rw [walkWith] at h
      split at h
      · cases h
      split at h
      · exact ihps h
      split at h
      · exact ihps h
      split at h
      · cases h
      split at h
      · next e he =>
        split at h
        · split at h
          · cases h
            exact he
          split at h
          · cases h
          · exact ih h
        split at h
        · exact ihps h
        split at h
        · cases h
          exact he
        · cases h
      next he =>
      split at h
      · cases h
        exact he
      · cases h

/-- Where parts lead before an entry is set, they lead afterwards, too. -/
theorem Leads.after (h : Sets fs fs' p new) {links : Nat} {here : Place} {ps : List String}
    {t : Target} (ht : fs.Leads links here ps t) : fs'.Leads links here ps (t.after p new) := by
  induction ht with
  | here he => exact .here (h.get?_eq he)
  | dot hsearch _ ih => exact .dot (h.allows hsearch) ih
  | up hsearch _ ih => exact .up (h.allows hsearch) ih
  | into hsearch hname he hdirectory _ ih =>
    exact .into (h.allows hsearch) hname (h.get?_eq he) ((h.isDirectory_eq he).trans hdirectory) ih
  | through hsearch hname he htarget hne _ ih =>
    exact .through (h.allows hsearch) hname (h.get?_eq he) ((h.target?_eq he).trans htarget) hne ih
  | last hsearch hname he htarget hdirectory =>
    exact .last (h.allows hsearch) hname (h.get?_eq he) ((h.target?_eq he).trans htarget)
      ((h.isDirectory_eq he).trans hdirectory)
  | free hsearch hname he =>
    have hsearch' := h.allows hsearch
    rw [Target.after]
    split
    · next hplace =>
      -- the name was free, and now it is the entry's
      rw [← hplace] at h
      exact .last hsearch' hname h.get?_place (h.free he).1 (h.free he).2
    · next hplace => exact .free hsearch' hname ((h.get?_of_ne _ hplace).trans he)

theorem locate_eq_ok {path : String} {t : Target} :
    fs.locate path = .ok t ↔ path ≠ "" ∧ path.utf8ByteSize < 4096 ∧
      fs.Leads linkLimit (if isAbsolute path then [] else fs.cwd) (allParts path) t := by
  rw [locate, follow, followWith]
  constructor
  · intro h
    split at h
    · cases h
    next hne =>
    split at h
    · cases h
    next hlength => exact ⟨hne, Nat.lt_of_not_le hlength, leads_of_walk h⟩
  · rintro ⟨hne, hlength, h⟩
    rw [if_neg hne, if_neg (Nat.not_le.mpr hlength)]
    exact walk_of_leads h

/-- What a path leads to before an entry is set, it leads to afterwards, too. -/
theorem Sets.locate (h : Sets fs fs' p new) {path : String} {t : Target}
    (ht : fs.locate path = .ok t) : fs'.locate path = .ok (t.after p new) := by
  obtain ⟨hne, hlength, hleads⟩ := locate_eq_ok.mp ht
  rw [← h.cwd] at hleads
  exact locate_eq_ok.mpr ⟨hne, hlength, hleads.after h⟩

theorem stands_of_follow {followLast : Bool} {path : String} {ps : List String} {t : Target}
    (h : fs.followWith followLast path ps = .ok t) : t.Stands fs := by
  rw [followWith] at h
  split at h
  · cases h
  split at h
  · cases h
  · exact stands_of_walk h

theorem stands_of_locate {path : String} {t : Target} (h : fs.locate path = .ok t) :
    t.Stands fs :=
  stands_of_follow h

theorem find_eq_ok {path : String} {q : Place} {e : Entry} :
    fs.find path = .ok (q, e) ↔ fs.locate path = .ok (.entry q e) := by
  rw [find]
  cases fs.locate path with
  | error e => exact ⟨nofun, nofun⟩
  | ok t => cases t <;> simp [Target.existing, bind, Except.bind]

/-- What a path finds elsewhere is not touched. -/
theorem Sets.find (h : Sets fs fs' p new) {path : String} {q : Place} {e : Entry}
    (hq : fs.find path = .ok (q, e)) (hne : q ≠ p) : fs'.find path = .ok (q, e) := by
  have hlocate := h.locate (find_eq_ok.mp hq)
  rw [Target.after, if_neg hne] at hlocate
  exact find_eq_ok.mpr hlocate

/-- The place of a target. -/
def Target.place : Target → Place
  | entry q _ => q
  | free q => q

theorem Sets.find_place {t : Target} (h : Sets fs fs' t.place new) {path : String}
    (ht : fs.locate path = .ok t) : fs'.find path = .ok (t.place, new) := by
  have hafter : t.after t.place new = .entry t.place new := by
    cases t <;> simp [Target.after, Target.place]
  rw [find_eq_ok, ← hafter]
  exact h.locate ht

theorem exists_find_of_readText {path text : String} (h : fs.readText path = .ok text) :
    ∃ q e, fs.find path = .ok (q, e) := by
  rw [readText, read] at h
  cases hfind : fs.find path with
  | error e => simp [hfind] at h
  | ok found => exact ⟨found.1, found.2, rfl⟩

/-- Where paths do not lead to one existing entry, they lead to different places. -/
theorem ne_of_sameFile {a b : String} {q : Place} {e : Entry} {t : Target}
    (ha : fs.find a = .ok (q, e)) (hb : fs.locate b = .ok t) (hne : fs.sameFile a b = false) :
    q ≠ t.place := by
  have hq : fs.get? q = some e := stands_of_locate (find_eq_ok.mp ha)
  have ht := stands_of_locate hb
  rintro rfl
  cases t with
  | entry p d =>
    rw [← find_eq_ok] at hb
    simp [sameFile, find?, ha, hb, Target.place, Except.toOption] at hne
  | free p => exact nomatch hq.symm.trans ht

/-! ## Writing -/

/-- There are directories, plain files and links, but no devices. -/
def Plain (fs : FileSystem) : Prop :=
  ∀ p e, (p, e) ∈ fs.entries → ∀ d, e.content ≠ .device d

theorem Plain.content_ne (h : fs.Plain) {q : Place} {e : Entry} (hq : fs.get? q = some e)
    (d : Device) : e.content ≠ .device d := by
  rw [get?] at hq
  split at hq
  · cases hq
    rintro ⟨⟩
  · obtain ⟨e', he', rfl⟩ := Option.map_eq_some_iff.mp hq
    obtain ⟨before, after, hentries, -⟩ := List.lookup_eq_some_iff.mp he'
    have hdevice := h q e' (by rw [hentries]; simp) d
    rw [seen]
    split
    · rintro ⟨⟩
    · exact hdevice

theorem seen_of_content_ne {e : Entry} (h : e.content ≠ .here) : fs.seen e = e := by
  rw [seen]
  split
  · next hhere => exact absurd hhere h
  · rfl

/-- An entry that is put is set, if it is of the right kind. -/
theorem sets_put (hne : p ≠ []) (hcontent : new.content ≠ .here)
    (hfree : fs.get? p = none → new.target? = none ∧ new.isDirectory = false)
    (htaken : ∀ e, fs.get? p = some e → new.target? = e.target? ∧
      new.isDirectory = e.isDirectory ∧ ∀ a, e.allows a = true → new.allows a = true) :
    Sets fs (fs.put p new) p new where
  cwd := rfl
  get?_place := by rw [get?_put_self new hne, seen_of_content_ne hcontent]
  free := hfree
  taken := htaken
  get?_of_ne := fun _ hq => get?_put_of_ne new hq

/-- A file is set where nothing was, or a file with no other rights. -/
theorem sets_put_file (hfile : new.isFile = true)
    (htaken : ∀ e, fs.get? p = some e → e.isFile = true ∧ ∀ a, new.allows a = e.allows a) :
    Sets fs (fs.put p new) p new := by
  have htarget := Entry.target?_of_isFile hfile
  have hdirectory := Entry.isDirectory_of_isFile hfile
  refine sets_put ?_ ?_ (fun _ => ⟨htarget, hdirectory⟩) fun e he => ?_
  · rintro rfl
    cases (htaken root rfl).1
  · intro hhere
    simp [Entry.isFile, hhere] at hfile
  · obtain ⟨he, hrights⟩ := htaken e he
    exact ⟨by rw [htarget, Entry.target?_of_isFile he],
      by rw [hdirectory, Entry.isDirectory_of_isFile he], fun a ha => (hrights a).trans ha⟩

/-- Writing goes where the path leads, and never to a directory. -/
theorem locate_of_writable {path : String} {t : Target} (h : fs.writable path = .ok t) :
    fs.locate path = .ok t ∧ ∀ q e, t = .entry q e → e.isDirectory = false := by
  have hparts (hslash : endsInSlash path = false) : allParts path = parts path := by
    simp [allParts, hslash]
  -- a path that ends in a slash is never written, and any other has the same parts for both
  rw [writable] at h
  rw [locate]
  split at h
  · cases h
  · next q e hfollow =>
    split at h
    · cases h
    next hdirectory =>
    rw [Bool.or_eq_true, not_or, Bool.not_eq_true, Bool.not_eq_true] at hdirectory
    split at h
    · cases h
      rw [hparts hdirectory.2]
      refine ⟨hfollow, ?_⟩
      rintro _ _ ⟨⟩
      exact hdirectory.1
    · cases h
  · next q hfollow =>
    split at h
    · cases h
    next hslash =>
    split at h
    · cases h
    split at h
    · cases h
      rw [hparts (Bool.eq_false_of_not_eq_true hslash)]
      exact ⟨hfollow, nofun⟩
    · cases h

/-- A file that is written is the one that the path led to, or is new where the path led to nothing;
it has the whole content, and everything else is as it was. -/
theorem sets_of_write (hplain : fs.Plain) {path : String} {bytes : ByteArray}
    (h : fs.write path bytes = .ok fs') :
    ∃ t filled, fs.locate path = .ok t ∧ filled.content = .file bytes ∧
      Sets fs fs' t.place filled := by
  rw [write] at h
  split at h
  · cases h
  · next q e hwritable =>
    obtain ⟨hlocate, hdirectory⟩ := locate_of_writable hwritable
    have hstands : fs.get? q = some e := stands_of_locate hlocate
    rw [overwrite] at h
    split at h
    · cases h
    · next old hcontent =>
      cases h
      refine ⟨.entry q e, e.refilled bytes, hlocate, rfl, sets_put_file rfl fun e' he' => ?_⟩
      obtain rfl : e = e' := Option.some.inj (hstands.symm.trans he')
      exact ⟨by rw [Entry.isFile, hcontent], e.allows_refilled bytes⟩
    · cases h
    · cases h
    all_goals
      next hcontent => exact absurd hcontent (hplain.content_ne hstands _)
  · next q hwritable =>
    obtain ⟨hlocate, -⟩ := locate_of_writable hwritable
    have hstands : fs.get? q = none := stands_of_locate hlocate
    cases h
    exact ⟨.free q, _, hlocate, rfl, sets_put_file rfl fun e he => nomatch hstands.symm.trans he⟩

/-! ## Modes -/

theorem content_ne_here {q : Place} {e : Entry} (hq : fs.get? q = some e) : e.content ≠ .here := by
  rw [get?] at hq
  split at hq
  · cases hq
    rintro ⟨⟩
  · obtain ⟨e', -, rfl⟩ := Option.map_eq_some_iff.mp hq
    rw [seen]
    split
    · rintro ⟨⟩
    · next hhere => exact hhere

/-- A mode that gives its owner all rights changes the rights of one entry, and the path finds that
entry as before. -/
theorem find_setMode {path : String} {mode : Nat}
    (hmode : ∀ a : Access, (mode / 0o100) &&& a.bit ≠ 0) (h : fs.setMode path mode = .ok fs') :
    ∃ p e, fs.find path = .ok (p, e) ∧ e.own = true ∧ Sets fs fs' p { e with mode := mode } ∧
      fs'.find path = .ok (p, { e with mode := mode }) := by
  rw [setMode] at h
  split at h
  · cases h
  next p e hfind =>
  split at h
  next hown =>
    cases h
    have hlocate := find_eq_ok.mp hfind
    have hstands : fs.get? p = some e := stands_of_locate hlocate
    have hhere : e.content ≠ .here := content_ne_here hstands
    have hsets : Sets fs (fs.put p { e with mode := mode }) p { e with mode := mode } := by
      refine sets_put ?_ hhere (fun hnone => ?_) fun d hd => ?_
      · -- the root belongs to no user
        rintro rfl
        cases hstands
        cases hown
      · cases hnone.symm.trans hstands
      · cases hd.symm.trans hstands
        exact ⟨rfl, rfl, fun a _ => by simp [Entry.allows, hown, hmode a]⟩
    exact ⟨p, e, hfind, hown, hsets, hsets.find_place (t := .entry p e) hlocate⟩
  · cases h

end FileSystem

end Looplet
