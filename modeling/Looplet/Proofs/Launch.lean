import Looplet.Proofs.Native
import Looplet.Shell.Machine

/-!
# Linking on a bare machine

The programs of a bare machine take their names and arguments as bytes. Nothing is lost by that
(`decoded_encoded`), so they are found where a build finds them: what may be started is exactly what
a build takes for a driver (`exists_fileAt_iff`). A driver that may not be executed is not started,
and nothing is changed (`link_of_not_isExecutable`). One that is started leaves relative paths where
they were (`keepDirectory_programs`), as the lemmas on builds of executables ask for.
-/

namespace Looplet

/-! ## Texts of bytes -/

namespace Text

theorem toList_loop (bytes : ByteArray) (i : Nat) (read : List UInt8) :
    ByteArray.toList.loop bytes i read = read.reverse ++ bytes.data.toList.drop i := by
  fun_induction ByteArray.toList.loop bytes i read with
  | case1 i read h ih =>
    have hi : i < bytes.data.toList.length := by simpa using h
    rw [ih, List.drop_eq_getElem_cons hi]
    simp [ByteArray.get!, h]
  | case2 i read h =>
    rw [List.drop_eq_nil_of_le (by simpa using Nat.le_of_not_lt h), List.append_nil]

theorem toList_eq (bytes : ByteArray) : bytes.toList = bytes.data.toList := by
  rw [ByteArray.toList, toList_loop, List.reverse_nil, List.nil_append, List.drop_zero]

theorem toUInt8_toNat_ofNat (b : UInt8) : (Char.ofNat b.toNat).toNat.toUInt8 = b := by
  have hvalid : b.toNat.isValidChar := .inl (by have := b.toNat_lt; omega)
  have hchar : (Char.ofNat b.toNat).toNat = b.toNat := by
    rw [Char.ofNat, dif_pos hvalid]
    rfl
  rw [hchar]
  exact UInt8.ofNat_toNat

theorem toBytes_ofBytes (bytes : ByteArray) : toBytes (ofBytes bytes) = bytes := by
  have hbytes : (ofBytes bytes).toList.map (fun c => c.toNat.toUInt8) = bytes.data.toList := by
    simp [ofBytes, toList_eq, Function.comp_def, toUInt8_toNat_ofNat]
  rw [toBytes, hbytes]

theorem decoded_toUTF8 (s : String) : decoded s.toUTF8 = s := by
  simp [decoded, String.fromUTF8?, s.isValidUTF8, String.fromUTF8]

/-- A text is read back from its bytes. -/
theorem decoded_encoded (s : String) : decoded (toBytes (encoded s)) = s := by
  rw [encoded, toBytes_ofBytes, decoded_toUTF8]

/-- A slash is a byte of its own. -/
theorem slash_mem_encoded {s : String} (h : '/' ∈ s.toList) : '/' ∈ (encoded s).toList := by
  have hbyte : 47 ∈ s.toUTF8.toList := by
    rw [toList_eq, String.toUTF8_eq_toByteArray, ← String.utf8Encode_toList, List.utf8Encode]
    simp only [List.toList_data_toByteArray, List.mem_flatMap]
    exact ⟨'/', h, by decide⟩
  rw [encoded, ofBytes, String.toList_ofList]
  exact List.mem_map.mpr ⟨47, hbyte, by decide⟩

end Text

/-! ## Starting -/

variable {fs : FileSystem} {path : String}

namespace Launch

/-- A path may be started if and only if it may be executed. -/
theorem exists_fileAt_iff :
    (∃ bytes, fileAt fs (Text.encoded path) = .ok bytes) ↔ fs.isExecutable path = true := by
  rw [fileAt, Text.decoded_encoded, FileSystem.isExecutable, FileSystem.find?]
  rcases fs.find path with _ | ⟨_, e⟩
  · simp [Except.toOption]
  · by_cases hrights : (e.isFile && e.allows .execute) = true
    · simp [Except.toOption, hrights]
    · simp [Except.toOption, hrights]

/-- The driver that a build finds may be started. -/
theorem exists_fileAt_of_find {searchPath home driver : String} {name? : Option String}
    {native : Code.Module → Option String → String → StateM FileSystem (Except CompileError Unit)}
    (h : (Toolchain.find (FileSystem.hostWith searchPath home native) name? fs).1 = .ok driver) :
    ∃ bytes, fileAt fs (Text.encoded driver) = .ok bytes :=
  exists_fileAt_iff.mpr (Toolchain.isExecutable_of_find h)

theorem ofPath_of_not_isExecutable (h : fs.isExecutable path = false) (args : List String) :
    ∃ e, ofPath fs (Text.encoded path) args = .error e := by
  rw [ofPath]
  cases hfile : fileAt fs (Text.encoded path) with
  | error e => exact ⟨e, rfl⟩
  | ok bytes => exact nomatch h.symm.trans (exists_fileAt_iff.mp ⟨bytes, hfile⟩)

end Launch

namespace Shell

variable {searchPath driver object output : String}

theorem keepDirectory_programs (searchPath : String) : (programs searchPath).KeepDirectory := by
  intro args fs ended h
  simp only [programs] at h
  split at h
  · cases h
  · cases h
    rfl

theorem programs_of_not_isExecutable (hslash : '/' ∈ driver.toList)
    (h : fs.isExecutable driver = false) (args : List String) :
    ∃ e, programs searchPath (driver :: args) fs = .error e := by
  have hencoded := Text.slash_mem_encoded hslash
  obtain ⟨e, he⟩ := Launch.ofPath_of_not_isExecutable h ((driver :: args).map Text.encoded)
  have hne : Text.encoded driver ≠ "" := by
    intro hempty
    simp [hempty] at hencoded
  have hname : Launch.ofName fs (Text.encoded searchPath) (Text.encoded driver)
      ((driver :: args).map Text.encoded) = .error e := by
    rw [Launch.ofName, if_neg hne, if_pos (by simpa using hencoded), he]
  refine ⟨e, ?_⟩
  simp only [programs, List.map_cons, List.head?_cons, Option.getD_some] at hname ⊢
  rw [hname]

/-- A driver that may not be executed is not started. -/
theorem link_of_not_isExecutable (hslash : '/' ∈ driver.toList)
    (h : fs.isExecutable driver = false) :
    ∃ e, Toolchain.link (programs searchPath) driver object output fs
      = (.error (.system driver e), fs) := by
  have hstart : ∃ e, Toolchain.start (programs searchPath)
      (Toolchain.arguments driver object output) fs = .error e := by
    rw [Toolchain.start]
    split
    · exact ⟨_, rfl⟩
    · exact programs_of_not_isExecutable hslash h _
  obtain ⟨e, he⟩ := hstart
  exact ⟨e, by rw [Toolchain.link, he]⟩

end Shell

end Looplet
