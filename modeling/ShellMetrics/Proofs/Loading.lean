import ShellMetrics.Analysis
import ShellMetrics.Proofs.Lookup
import Mathlib.Data.Int.Notation

/-!
# What loading a script can end in

A script is loaded, or it is refused as a file that cannot be accessed, with a reason, or a fault
escapes that is neither.  Which of the three it is can be told beforehand from the path, the tree
and the settings: a null character in the path or in the name of the encoding escapes, so does a
size limit that is no whole number, and so do UTF-16 without a byte order mark and whatever a codec
of the machine complains about.
-/

namespace ShellMetrics

open Fallible

namespace Encoding

/-- There are two octets or more, and the first two are no byte order mark of UTF-16. -/
def IsUnmarked (octets : List UInt8) : Prop :=
  2 ≤ octets.length ∧ octets.take 2 ≠ [0xff, 0xfe] ∧ octets.take 2 ≠ [0xfe, 0xff]

instance (octets : List UInt8) : Decidable (IsUnmarked octets) :=
  inferInstanceAs (Decidable (_ ∧ _ ∧ _))

/-- Without a fixed order of octets only a missing mark is a fault. -/
theorem decodeUtf16_eq_error_iff {octets : List UInt8} {fault : Fault} :
    decodeUtf16 octets = .error fault ↔ fault = .missingByteOrderMark ∧ IsUnmarked octets := by
  fun_cases decodeUtf16 octets with
  | case1 rest => simp [IsUnmarked]
  | case2 rest => simp [IsUnmarked]
  | case3 first second rest hlittle hbig =>
    have hmark : IsUnmarked (first :: second :: rest) := by
      refine ⟨by simp, ?_, ?_⟩
      · intro h
        simp only [List.take_succ_cons, List.take_zero, List.cons.injEq, and_true] at h
        exact hlittle h.1 h.2
      · intro h
        simp only [List.take_succ_cons, List.take_zero, List.cons.injEq, and_true] at h
        exact hbig h.1 h.2
    simp [hmark, eq_comm]
  | case4 _ _ _ hshort =>
    have hlength : ¬ 2 ≤ octets.length := by
      intro h
      match octets, h with
      | first :: second :: rest, _ => exact hshort first second rest rfl
    simp [IsUnmarked, hlength]

/-- Only UTF-16 without a fixed order of octets can fail. -/
theorem decode_eq_error_iff {encoding : Encoding} {octets : List UInt8} {fault : Fault} :
    encoding.decode octets = .error fault ↔
      fault = .missingByteOrderMark ∧ encoding = .utf16 ∧ IsUnmarked octets := by
  cases encoding with
  | utf16 => simpa [decode] using decodeUtf16_eq_error_iff
  | _ => simp [decode]

end Encoding

namespace Codec

variable {others : Text → Codec} {name : Text} {fault : Fault}

/-- A name that stands for no encoding of text is refused. -/
theorem decoderOf_eq_error (h : decoderOf others name = .error fault) :
    fault = .notTextEncoding name ∨ fault = .unknownEncoding name := by
  unfold decoderOf at h
  split at h
  · cases h
  · split at h
    · exact .inl (Except.error.inj h).symm
    · split at h
      · exact .inr (Except.error.inj h).symm
      · exact .inl (Except.error.inj h).symm
      · cases h

theorem notMem_otherTransforms {decode : List UInt8 → Except Fault Text}
    (h : decoderOf others name = .ok decode) (hforeign : Encoding.ofName? name = none) :
    Encoding.normalize name ∉ Encoding.otherTransforms := by
  intro htransform
  simp [decoderOf, hforeign, htransform] at h

/-- Decoding fails for want of a byte order mark, or with a complaint of the machine's codec. -/
theorem decode_eq_error_iff {decode : List UInt8 → Except Fault Text} {octets : List UInt8}
    (h : decoderOf others name = .ok decode) :
    decode octets = .error fault ↔
      (fault = .missingByteOrderMark ∧ Encoding.ofName? name = some .utf16 ∧
        Encoding.IsUnmarked octets) ∨
      ∃ foreign error, fault = .codec error ∧ Encoding.ofName? name = none ∧
        others name = .decoder foreign ∧ foreign octets = .error error := by
  unfold decoderOf at h
  split at h
  · next encoding hname =>
    obtain rfl := Except.ok.inj h
    rw [Encoding.decode_eq_error_iff, hname]
    simp
  next hname =>
  split at h
  · cases h
  split at h
  · cases h
  · cases h
  · next foreign hforeign =>
    obtain rfl := Except.ok.inj h
    rw [mapError_eq_error_iff, hname, hforeign]
    simp [and_comm, eq_comm]

end Codec

namespace Script

variable {world : World} {settings : Settings} {path : Path} {fault : Fault}

/-! ## The stages of reading -/

theorem readText_of_entryAt_eq_error
    (h : world.tree.entryAt world.here true path = .error fault) :
    readText world settings path = .error (fileProblem path lookReason? fault) := by
  rw [readText, h]
  rfl

theorem readText_of_sizeLimit_eq_error {entry : Entry}
    (hentry : world.tree.entryAt world.here true path = .ok entry)
    (hlimit : settings.sizeLimit = .error fault) :
    readText world settings path = .error fault := by
  rw [readText, hentry, hlimit]
  rfl

/-- A script over the size limit is refused, whatever stands in it. -/
theorem readText_of_limit_lt {entry : Entry} {limit : ℤ}
    (hentry : world.tree.entryAt world.here true path = .ok entry)
    (hlimit : settings.sizeLimit = .ok limit) (hsize : limit < entry.size) :
    readText world settings path =
      .error (.reported (.fileAccess path (tooLargeReason entry.size limit))) := by
  rw [readText, hentry, hlimit]
  simp only [Except.mapError, bind, Except.bind, hsize, if_true]
  rfl

theorem readText_of_le_limit {entry : Entry} {limit : ℤ}
    (hentry : world.tree.entryAt world.here true path = .ok entry)
    (hlimit : settings.sizeLimit = .ok limit) (hsize : entry.size ≤ limit) :
    readText world settings path =
      (readContent world settings path).mapError (fileProblem path readReason?) := by
  have hnot : ¬ limit < entry.size := by omega
  rw [readText, hentry, hlimit]
  simp only [Except.mapError, bind, Except.bind, hnot, if_false]

theorem load_eq_error_iff :
    load world settings path = .error fault ↔ readText world settings path = .error fault := by
  rw [load, bind_eq_error_iff]
  simp

/-- What a script that is read has come through. -/
theorem readText_eq_ok {content : Text} (h : readText world settings path = .ok content) :
    ∃ entry limit octets decode, world.tree.entryAt world.here true path = .ok entry ∧
      settings.sizeLimit = .ok limit ∧ entry.size ≤ limit ∧ world.read path = .ok octets ∧
      decoderOf world settings.encoding = .ok decode ∧ decode octets = .ok content := by
  cases hentry : world.tree.entryAt world.here true path with
  | error cause =>
    rw [readText_of_entryAt_eq_error hentry] at h
    exact absurd h nofun
  | ok entry =>
    cases hlimit : settings.sizeLimit with
    | error cause =>
      rw [readText_of_sizeLimit_eq_error hentry hlimit] at h
      exact absurd h nofun
    | ok limit =>
      by_cases hsize : limit < entry.size
      · rw [readText_of_limit_lt hentry hlimit hsize] at h
        exact absurd h nofun
      · have hfits : entry.size ≤ limit := by omega
        rw [readText_of_le_limit hentry hlimit hfits, mapError_eq_ok_iff] at h
        simp only [readContent, bind_eq_ok_iff] at h
        obtain ⟨_, -, octets, hread, decode, hdecoder, hdecode⟩ := h
        exact ⟨entry, limit, octets, decode, rfl, rfl, hfits, hread, hdecoder, hdecode⟩

/-! ## Faults that escape -/

/-- What stands at the end of the path can be looked at and is not over the size limit. -/
def FitsLimit (world : World) (settings : Settings) (path : Path) : Prop :=
  ∃ entry limit, world.tree.entryAt world.here true path = .ok entry ∧
    settings.sizeLimit = .ok limit ∧ entry.size ≤ limit

/-- The faults that loading a script passes on instead of refusing the script. -/
inductive Escapes (world : World) (settings : Settings) (path : Path) : Fault → Prop
  | nullInPath (hnull : '\x00' ∈ path.toText) : Escapes world settings path .nullInPath
  | noLimit {entry : Entry} {fault : Fault}
      (hentry : world.tree.entryAt world.here true path = .ok entry)
      (hlimit : settings.sizeLimit = .error fault) : Escapes world settings path fault
  | encodingNotText (hfits : FitsLimit world settings path)
      (hnothing : settings.encoding ≠ .nothing) (htext : ∀ name, settings.encoding ≠ .text name) :
      Escapes world settings path (.encodingNotText settings.encoding.typeName)
  | nullInEncoding {name : Text} (hfits : FitsLimit world settings path)
      (hname : settings.encoding = .text name) (hnull : '\x00' ∈ name) :
      Escapes world settings path .nullInEncoding
  | unmarked {name : Text} {octets : List UInt8} (hfits : FitsLimit world settings path)
      (hname : settings.encoding = .text name) (hnull : '\x00' ∉ name)
      (hutf16 : Encoding.ofName? name = some .utf16) (hread : world.read path = .ok octets)
      (hmark : Encoding.IsUnmarked octets) :
      Escapes world settings path .missingByteOrderMark
  | codec {name : Text} {octets : List UInt8} {decode : List UInt8 → Except CodecError Text}
      {error : CodecError} (hfits : FitsLimit world settings path)
      (hname : settings.encoding = .text name) (hnull : '\x00' ∉ name)
      (hforeign : Encoding.ofName? name = none)
      (htext : Encoding.normalize name ∉ Encoding.otherTransforms)
      (hdecoder : world.codecs name = .decoder decode) (hread : world.read path = .ok octets)
      (hdecode : decode octets = .error error) : Escapes world settings path (.codec error)

/-- The size limit is at fault if it is not a number or has no bound. -/
theorem sizeLimit_eq_error (h : settings.sizeLimit = .error fault) :
    fault = .undefinedSize ∨ fault = .infiniteSize := by
  unfold Settings.sizeLimit Quantity.mega at h
  split at h
  · exact absurd h nofun
  · exact absurd h nofun
  · split at h
    · exact .inl (Except.error.inj h).symm
    · exact .inr (Except.error.inj h).symm
    · exact absurd h nofun

/-- What escapes is not reported as a problem with the file. -/
theorem Escapes.ne_reported (h : Escapes world settings path fault) (problem : Problem) :
    fault ≠ .reported problem := by
  cases h with
  | noLimit hentry hlimit =>
    rcases sizeLimit_eq_error hlimit with rfl | rfl <;> exact nofun
  | _ => exact nofun

theorem Escapes.readReason?_eq_none (h : Escapes world settings path fault) :
    readReason? fault = none := by
  cases h with
  | noLimit hentry hlimit =>
    rcases sizeLimit_eq_error hlimit with rfl | rfl <;> rfl
  | _ => rfl

theorem FitsLimit.readText_eq (h : FitsLimit world settings path) :
    readText world settings path =
      (readContent world settings path).mapError (fileProblem path readReason?) := by
  obtain ⟨entry, limit, hentry, hlimit, hsize⟩ := h
  exact readText_of_le_limit hentry hlimit hsize

theorem FitsLimit.notMem_null (h : FitsLimit world settings path) : '\x00' ∉ path.toText := by
  obtain ⟨entry, limit, hentry, -, -⟩ := h
  intro hnull
  rw [FileTree.entryAt_of_null hnull] at hentry
  exact absurd hentry nofun

/-- Reading the content of a file that is small enough fails with a reason to refuse it, or with a
fault that escapes. -/
theorem readContent_eq_error (hfits : FitsLimit world settings path)
    (h : readContent world settings path = .error fault) :
    (∃ reason, readReason? fault = some reason) ∨ Escapes world settings path fault := by
  unfold readContent at h
  simp only [bind_eq_error_iff] at h
  rcases h with hcheck | ⟨_, hcheck, hread |
    ⟨octets, hread, hdecoder | ⟨decode, hdecoder, hdecode⟩⟩⟩
  · -- The name of the encoding is no text, or has a null character in it.
    unfold checkEncoding at hcheck
    split at hcheck
    · exact absurd hcheck nofun
    · next name hname =>
      split at hcheck
      · next hnull =>
        obtain rfl := Except.error.inj hcheck
        exact .inr (.nullInEncoding hfits hname (by simpa using hnull))
      · exact absurd hcheck nofun
    · next value htext hnothing =>
      obtain rfl := Except.error.inj hcheck
      exact .inr (.encodingNotText hfits htext hnothing)
  · obtain ⟨error, rfl⟩ := FileTree.read_eq_error hfits.notMem_null hread
    cases error <;> exact .inl ⟨_, rfl⟩
  · unfold decoderOf at hdecoder
    split at hdecoder
    · cases hdecoder
    · rcases Codec.decoderOf_eq_error hdecoder with rfl | rfl <;> exact .inl ⟨_, rfl⟩
    · next value htext hnothing =>
      obtain rfl := Except.error.inj hdecoder
      exact .inr (.encodingNotText hfits htext hnothing)
  · unfold decoderOf at hdecoder
    split at hdecoder
    · obtain rfl := Except.ok.inj hdecoder
      cases hdecode
    · next name hname =>
      have hnull : '\x00' ∉ name := by
        intro hnull
        rw [hname] at hcheck
        simp [checkEncoding, hnull] at hcheck
      rcases (Codec.decode_eq_error_iff hdecoder).1 hdecode with
        ⟨rfl, hutf16, hmark⟩ | ⟨foreign, error, rfl, hforeign, hcodec, hfails⟩
      · exact .inr (.unmarked hfits hname hnull hutf16 hread hmark)
      · have htext := Codec.notMem_otherTransforms hdecoder hforeign
        exact .inr (.codec hfits hname hnull hforeign htext hcodec hread hfails)
    · cases hdecoder

/-- A script that is not loaded is refused with a reason, or a fault escapes. -/
theorem readText_eq_error (h : readText world settings path = .error fault) :
    (∃ reason, fault = .reported (.fileAccess path reason)) ∨
      Escapes world settings path fault := by
  cases hentry : world.tree.entryAt world.here true path with
  | error cause =>
    rw [readText_of_entryAt_eq_error hentry] at h
    obtain rfl := Except.error.inj h
    by_cases hnull : '\x00' ∈ path.toText
    · rw [FileTree.entryAt_of_null hnull] at hentry
      obtain rfl := Except.error.inj hentry
      exact .inr (.nullInPath hnull)
    · obtain ⟨error, -, rfl⟩ := FileTree.entryAt_eq_error hnull hentry
      cases error <;> exact .inl ⟨_, rfl⟩
  | ok entry =>
    cases hlimit : settings.sizeLimit with
    | error cause =>
      rw [readText_of_sizeLimit_eq_error hentry hlimit] at h
      obtain rfl := Except.error.inj h
      exact .inr (.noLimit hentry hlimit)
    | ok limit =>
      by_cases hsize : limit < entry.size
      · rw [readText_of_limit_lt hentry hlimit hsize] at h
        exact .inl ⟨_, (Except.error.inj h).symm⟩
      · have hfits : FitsLimit world settings path := ⟨entry, limit, hentry, hlimit, by omega⟩
        rw [hfits.readText_eq] at h
        obtain ⟨cause, hcontent, rfl⟩ := mapError_eq_error_iff.1 h
        rcases readContent_eq_error hfits hcontent with ⟨reason, hreason⟩ | hescapes
        · refine .inl ⟨reason, ?_⟩
          simp [fileProblem, hreason]
        · refine .inr ?_
          simpa [fileProblem, hescapes.readReason?_eq_none] using hescapes

/-- A fault that escapes leaves the reading of a script as it is. -/
theorem readText_of_escapes (h : Escapes world settings path fault) :
    readText world settings path = .error fault := by
  -- Behind the size limit it is left to show what reading the content fails with.
  have hcontent (hfits : FitsLimit world settings path)
      (hfault : readContent world settings path = .error fault) :
      readText world settings path = .error fault := by
    rw [hfits.readText_eq, hfault]
    simp [Except.mapError, fileProblem, h.readReason?_eq_none]
  cases h with
  | nullInPath hnull =>
    rw [readText_of_entryAt_eq_error (FileTree.entryAt_of_null hnull)]
    rfl
  | noLimit hentry hlimit => exact readText_of_sizeLimit_eq_error hentry hlimit
  | encodingNotText hfits hnothing htext =>
    apply hcontent hfits
    have hcheck : checkEncoding settings.encoding =
        .error (.encodingNotText settings.encoding.typeName) := by
      unfold checkEncoding
      split <;> simp_all
    rw [readContent, hcheck]
    rfl
  | nullInEncoding hfits hname hnull =>
    apply hcontent hfits
    simp [readContent, hname, checkEncoding, hnull, bind, Except.bind]
  | unmarked hfits hname hnull hutf16 hread hmark =>
    apply hcontent hfits
    have hdecode := Encoding.decodeUtf16_eq_error_iff.2 ⟨rfl, hmark⟩
    simp [readContent, hname, checkEncoding, hnull, hread, decoderOf, Codec.decoderOf, hutf16,
      Encoding.decode, hdecode, bind, Except.bind]
  | codec hfits hname hnull hforeign htext hcodec hread hdecode =>
    apply hcontent hfits
    simp [readContent, hname, checkEncoding, hnull, hread, decoderOf, Codec.decoderOf, hforeign,
      htext, hcodec, hdecode, Except.mapError, bind, Except.bind]

end Script

theorem Analysis.analyzeFile_eq_error_iff {world : World} {settings : Settings} {path : Path}
    {fault : Fault} :
    Analysis.analyzeFile world settings path = .error fault ↔
      Script.readText world settings path = .error fault := by
  rw [Analysis.analyzeFile, bind_eq_error_iff, ← Script.load_eq_error_iff]
  simp

end ShellMetrics
