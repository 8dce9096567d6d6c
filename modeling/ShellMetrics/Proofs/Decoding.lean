import ShellMetrics.Proofs.LineEnds
import ShellMetrics.Proofs.Loading
import ShellMetrics.Proofs.Utf8

/-!
# Lines of octets

In UTF-8, ASCII, Latin-1 and the Windows code page a newline is the octet 10, and whatever else
cannot be decoded neither hides a newline nor makes one.  The lines of a file can therefore be
counted in its octets, a file that is cut behind a newline falls into the lines of its two parts,
and a text that has been encoded in UTF-8 is loaded with its own lines.
-/

namespace ShellMetrics

namespace Encoding

/-- A way of decoding that puts a newline where the octet 10 stands and nowhere else, decodes what
stands before it and behind it apart, and makes something of every octet. -/
structure KeepsLines (decoded : List UInt8 → Text) : Prop where
  append_newline : ∀ before after,
    decoded (before ++ 10 :: after) = decoded before ++ '\n' :: decoded after
  newline_notMem : ∀ octets, 10 ∉ octets → '\n' ∉ decoded octets
  eq_nil_iff : ∀ octets, decoded octets = [] ↔ octets = []

/-- Decoding keeps the number of lines. -/
theorem KeepsLines.pieceCount_eq {decoded : List UInt8 → Text} (h : KeepsLines decoded)
    (octets : List UInt8) : pieceCount '\n' (decoded octets) = pieceCount 10 octets := by
  induction octets using induction_on_pieces (10 : UInt8) with
  | last piece hpiece =>
    have hdecoded := h.newline_notMem piece hpiece
    by_cases hne : piece = []
    · rw [hne, (h.eq_nil_iff []).2 rfl, pieceCount_nil, pieceCount_nil]
    · rw [pieceCount_of_notMem hdecoded ((h.eq_nil_iff piece).not.2 hne),
        pieceCount_of_notMem hpiece hne]
  | next piece rest hpiece ih =>
    rw [h.append_newline, pieceCount_append_cons (h.newline_notMem piece hpiece),
      pieceCount_append_cons hpiece, ih]

/-- A text is split at a newline as its octets are. -/
theorem KeepsLines.splitLines_append {decoded : List UInt8 → Text} (h : KeepsLines decoded)
    (before after : List UInt8) :
    Script.splitLines (decoded (before ++ [10] ++ after)) =
      Script.splitLines (decoded (before ++ [10])) ++ Script.splitLines (decoded after) := by
  have hends : decoded (before ++ [10]) = decoded before ++ ['\n'] := by
    rw [h.append_newline, (h.eq_nil_iff []).2 rfl]
  calc
    Script.splitLines (decoded (before ++ [10] ++ after)) =
        Script.splitLines (decoded (before ++ [10]) ++ decoded after) := by
      rw [hends, List.append_assoc, List.singleton_append, h.append_newline, List.append_assoc,
        List.singleton_append]
    _ = Script.splitLines (decoded (before ++ [10])) ++ Script.splitLines (decoded after) := by
      apply Script.splitLines_append
      rw [hends, List.getLast?_concat]
      exact .inr rfl

/-! ## The encodings -/

/-- An octet by octet decoder keeps lines if it makes newlines of newlines only. -/
theorem keepsLines_map {char : UInt8 → Char} (h : ∀ octet, char octet = '\n' ↔ octet = 10) :
    KeepsLines (List.map char) where
  append_newline before after := by rw [List.map_append, List.map_cons, (h 10).2 rfl]
  newline_notMem octets hoctets := by
    intro hmem
    obtain ⟨octet, hoctet, hchar⟩ := List.mem_map.1 hmem
    exact hoctets ((h octet).1 hchar ▸ hoctet)
  eq_nil_iff octets := List.map_eq_nil_iff

theorem keepsLines_utf8 : KeepsLines Utf8.decode where
  append_newline before after := by
    unfold Utf8.decode Utf8.units
    rw [Utf8.unitsFrom_append_ascii Utf8.isProper_start before (by decide), List.map_append,
      List.map_cons]
    rfl
  newline_notMem octets hoctets := by
    intro hmem
    obtain ⟨unit, hunit, hchar⟩ := List.mem_map.1 hmem
    cases unit with
    | none => exact absurd hchar (by decide)
    | some c =>
      rw [Option.getD_some] at hchar
      rw [hchar] at hunit
      exact Utf8.newline_notMem_unitsFrom Utf8.isProper_start hoctets hunit
  eq_nil_iff octets := by
    unfold Utf8.decode Utf8.units
    rw [List.map_eq_nil_iff]
    constructor
    · intro hnil
      by_contra hne
      exact Utf8.unitsFrom_ne_nil Utf8.isProper_start (.inr hne) hnil
    · rintro rfl
      rfl

theorem windowsChar_eq_newline_iff : ∀ n < 256, windowsChar n = '\n' ↔ n = 10 := by
  decide +kernel

/-- The encodings in which a newline is one octet. -/
theorem exists_keepsLines {encoding : Encoding}
    (h : encoding ∈ [utf8, ascii, latin1, windows1252]) :
    ∃ decoded, KeepsLines decoded ∧ ∀ octets, encoding.decode octets = .ok (decoded octets) := by
  have hten (octet : UInt8) : octet.toNat = 10 ↔ octet = 10 := by
    rw [← UInt8.toNat_inj]
    rfl
  simp only [List.mem_cons, List.not_mem_nil, or_false] at h
  rcases h with rfl | rfl | rfl | rfl
  · exact ⟨Utf8.decode, keepsLines_utf8, fun _ ↦ rfl⟩
  · refine ⟨_, keepsLines_map ?_, fun _ ↦ rfl⟩
    intro octet
    split
    · rw [Utf8.ofNat_eq_newline_iff, hten]
    · next hbeyond =>
      have hne : octet ≠ 10 := by
        rintro rfl
        exact hbeyond (by decide)
      simp [hne]
  · refine ⟨_, keepsLines_map ?_, fun _ ↦ rfl⟩
    intro octet
    rw [Utf8.ofNat_eq_newline_iff, hten]
  · refine ⟨_, keepsLines_map ?_, fun _ ↦ rfl⟩
    intro octet
    rw [windowsChar_eq_newline_iff octet.toNat octet.toNat_lt, hten]

end Encoding

namespace Script

/-- The settings ask for the encoding, on any machine, by a name that can be looked up. -/
def ReadsIn (settings : Settings) (encoding : Encoding) : Prop :=
  checkEncoding settings.encoding = .ok () ∧
    ∀ world : World, decoderOf world settings.encoding = .ok encoding.decode

/-- Wherever these octets can be read from a file, loading it gives these lines. -/
def LoadsAs (settings : Settings) (octets : List UInt8) (lines : List Text) : Prop :=
  ∀ (world : World) (path : Path), world.read path = .ok octets →
    load world settings path = .ok ⟨path.name, lines⟩

/-- What a file is loaded as depends on its octets alone. -/
theorem loadsAs_of_decode {settings : Settings} {encoding : Encoding} {limit : ℤ}
    {octets : List UInt8} {content : Text} (hencoding : ReadsIn settings encoding)
    (hlimit : settings.sizeLimit = .ok limit) (hsize : octets.length ≤ limit)
    (hdecode : encoding.decode octets = .ok content) :
    LoadsAs settings octets (splitLines content) := by
  intro world path hread
  have hentry := FileTree.entryAt_of_read hread
  have hcontent : readContent world settings path = .ok content := by
    rw [readContent, hencoding.1, hread, hencoding.2 world]
    exact hdecode
  rw [load, readText_of_le_limit hentry hlimit hsize, hcontent]
  rfl

theorem readsIn_of_name {settings : Settings} {name : Text} {encoding : Encoding}
    (hsettings : settings.encoding = .text name) (hnull : '\x00' ∉ name)
    (hname : Encoding.ofName? name = some encoding) : ReadsIn settings encoding := by
  unfold ReadsIn
  rw [hsettings]
  refine ⟨by simp [checkEncoding, hnull], ?_⟩
  intro world
  rw [decoderOf, Codec.decoderOf, hname]

/-- In each of the four encodings a file has as many lines as newlines among its octets, and one
more if something stands behind the last of them; cut behind a newline it falls into the lines of
its parts; and the UTF-8 octets of a text are loaded as the lines of that text.  No octets are an
obstacle to loading. -/
theorem load_keeps_lines :
    (∀ entry ∈ [(Text.lit "utf-8", Encoding.utf8), (Text.lit "ascii", .ascii),
        (Text.lit "latin-1", .latin1), (Text.lit "cp1252", .windows1252)],
      ∀ settings : Settings, settings.encoding = .text entry.1 → ReadsIn settings entry.2) ∧
    ∀ (settings : Settings) (encoding : Encoding) (limit : ℤ), ReadsIn settings encoding →
      encoding ∈ [.utf8, .ascii, .latin1, .windows1252] → settings.sizeLimit = .ok limit →
        (∀ octets : List UInt8, octets.length ≤ limit →
          ∃ lines, LoadsAs settings octets lines ∧
            lines.length =
              octets.count 10 + if octets ≠ [] ∧ octets.getLast? ≠ some 10 then 1 else 0) ∧
        (∀ before after : List UInt8, (before ++ [10] ++ after).length ≤ limit →
          ∃ first second, LoadsAs settings (before ++ [10]) first ∧
            LoadsAs settings after second ∧
            LoadsAs settings (before ++ [10] ++ after) (first ++ second)) ∧
        (encoding = .utf8 → ∀ text : Text,
          (text.flatMap String.utf8EncodeChar).length ≤ limit →
            LoadsAs settings (text.flatMap String.utf8EncodeChar) (splitLines text)) := by
  constructor
  · intro entry hentry settings hsettings
    simp only [List.mem_cons, List.not_mem_nil, or_false] at hentry
    rcases hentry with rfl | rfl | rfl | rfl
    all_goals exact readsIn_of_name hsettings (by decide) rfl
  · intro settings encoding limit hencoding hmem hlimit
    obtain ⟨decoded, hkeeps, hdecode⟩ := Encoding.exists_keepsLines hmem
    have hloads {octets : List UInt8} (hsize : octets.length ≤ limit) :
        LoadsAs settings octets (splitLines (decoded octets)) :=
      loadsAs_of_decode hencoding hlimit hsize (hdecode octets)
    refine ⟨?_, ?_, ?_⟩
    · intro octets hsize
      refine ⟨_, hloads hsize, ?_⟩
      rw [length_splitLines, hkeeps.pieceCount_eq]
      rfl
    · intro before after hsize
      refine ⟨_, _, hloads ?_, hloads ?_, ?_⟩
      · simp only [List.length_append] at hsize ⊢
        omega
      · simp only [List.length_append] at hsize
        omega
      · rw [← hkeeps.splitLines_append]
        exact hloads hsize
    · rintro rfl text hsize
      rw [← Utf8.encode_eq_flatMap] at hsize ⊢
      apply loadsAs_of_decode hencoding hlimit hsize
      rw [Encoding.decode, Utf8.decode_encode]

/-- A character broken off by a newline, and one broken off by the end of the file. -/
theorem load_broken_characters :
    let octets : List UInt8 := [0xe2, 0x82, 10, 0xc3]
    let world : World :=
      { tree := FileTree.empty.insert [Text.lit "a.sh"] (.file octets), workDir := ⟨.absolute, []⟩,
        homeDir := ⟨.absolute, []⟩, environment := ∅ }
    let path : Path := ⟨.relative, [Text.lit "a.sh"]⟩
    ReadsIn Settings.default .utf8 ∧ Settings.default.sizeLimit = .ok 10485760 ∧
      (octets.length : ℤ) ≤ 10485760 ∧
      world.read path = .ok octets ∧
      ∃ lines, load world Settings.default path = .ok ⟨Text.lit "a.sh", lines⟩ ∧
        lines.length = 2 := by
  intro octets world path
  have hreads : ReadsIn Settings.default .utf8 :=
    load_keeps_lines.1 (Text.lit "utf-8", .utf8) (by simp) _ rfl
  have hlimit : Settings.default.sizeLimit = .ok 10485760 := by rfl
  have hsize : (octets.length : ℤ) ≤ 10485760 := by decide
  have hread : world.read path = .ok octets := by rfl
  obtain ⟨hcounts, -⟩ := load_keeps_lines.2 Settings.default .utf8 _ hreads (by simp) hlimit
  obtain ⟨lines, hloads, hlength⟩ := hcounts octets hsize
  exact ⟨hreads, hlimit, hsize, hread, lines, hloads world path hread, hlength⟩

end Script

end ShellMetrics
