import CredentialWatch.Location
import CredentialWatch.Outcome
import CredentialWatch.Proofs.Utf8

/-!
# File URIs and the paths they name

A path may be written in a URI in many ways, since all of its characters but the first slash may be
escaped byte by byte. Every such URI names exactly this path. Conversely a location is refused as
unsupported exactly for a scheme other than `file`; one with that scheme names what its path spells,
if it has one of the local machine; and every other location is a path as it stands.
-/
namespace CredentialWatch.Location

open String (utf8EncodeChar)
open Text.AsciiCase (same same_iff fold)

section Escapes

/-- A percent sign and two hexadecimal digits, of either case, that spell a byte. -/
def IsEscape (byte : UInt8) (text : List Char) : Prop :=
  ∃ high low, text = ['%', high, low] ∧ Bytes.hexValue? high = some (byte.toNat / 16) ∧
    Bytes.hexValue? low = some (byte.toNat % 16)

/-- What may be written for a text: a character other than a percent sign as it is, and any
character by the escapes of the bytes of its UTF-8 form. -/
inductive Encodes : List Char → List Char → Prop where
  | nil : Encodes [] []
  | plain {char : Char} {text encoded : List Char} (hplain : char ≠ '%')
      (rest : Encodes text encoded) : Encodes (char :: text) (char :: encoded)
  | escaped {char : Char} {text encoded : List Char} {escapes : List (List Char)}
      (hescapes : List.Forall₂ IsEscape (utf8EncodeChar char) escapes)
      (rest : Encodes text encoded) : Encodes (char :: text) (escapes.flatten ++ encoded)

/-- The bytes that a text spells: an escape spells its byte, and a character that begins no escape
spells its UTF-8 form. -/
inductive Spells : List Char → Bytes → Prop where
  | nil : Spells [] []
  | escape {byte : UInt8} {escape text : List Char} {bytes : Bytes} (hescape : IsEscape byte escape)
      (rest : Spells text bytes) : Spells (escape ++ text) (byte :: bytes)
  | char {char : Char} {text : List Char} {bytes : Bytes}
      (hplain : ∀ byte escape, IsEscape byte escape → ¬ escape <+: char :: text)
      (rest : Spells text bytes) : Spells (char :: text) (utf8EncodeChar char ++ bytes)

theorem hexValue?_lt {char : Char} {value : Nat} (h : Bytes.hexValue? char = some value) :
    value < 16 := by
  have hdigits : '0'.toNat = 48 ∧ '9'.toNat = 57 ∧ 'a'.toNat = 97 ∧ 'f'.toNat = 102 ∧
      'A'.toNat = 65 ∧ 'F'.toNat = 70 := by decide
  simp only [Bytes.hexValue?, Char.le_def, UInt32.le_iff_toNat_le] at h
  change (if 48 ≤ char.toNat ∧ char.toNat ≤ 57 then some (char.toNat - 48)
    else if 97 ≤ char.toNat ∧ char.toNat ≤ 102 then some (char.toNat - 87)
    else if 65 ≤ char.toNat ∧ char.toNat ≤ 70 then some (char.toNat - 55) else none) =
      some value at h
  grind

theorem percentDecode_escape {byte : UInt8} {escape : List Char} (h : IsEscape byte escape)
    (rest : List Char) : percentDecode (escape ++ rest) = byte :: percentDecode rest := by
  obtain ⟨high, low, rfl, hhigh, hlow⟩ := h
  have hbyte : byte.toNat / 16 * 16 + byte.toNat % 16 = byte.toNat := by omega
  simp only [List.cons_append, List.nil_append, percentDecode, if_true, hhigh, hlow, hbyte,
    UInt8.ofNat_toNat]

/-- Two hexadecimal digits behind a percent sign make an escape. -/
theorem isEscape_of_digits {high low : Char} {first second : Nat}
    (hhigh : Bytes.hexValue? high = some first) (hlow : Bytes.hexValue? low = some second) :
    IsEscape (UInt8.ofNat (first * 16 + second)) ['%', high, low] := by
  have hfirst := hexValue?_lt hhigh
  have hsecond := hexValue?_lt hlow
  have hbyte : (UInt8.ofNat (first * 16 + second)).toNat = first * 16 + second := by
    rw [UInt8.toNat_ofNat']
    omega
  refine ⟨high, low, rfl, ?_, ?_⟩
  · rw [hhigh, hbyte]
    congr 1
    omega
  · rw [hlow, hbyte]
    congr 1
    omega

theorem percentDecode_plain {char : Char} {rest : List Char}
    (h : ∀ byte escape, IsEscape byte escape → ¬ escape <+: char :: rest) :
    percentDecode (char :: rest) = utf8EncodeChar char ++ percentDecode rest := by
  match rest with
  | [] => simp [percentDecode]
  | [low] => simp [percentDecode]
  | high :: low :: rest =>
    rw [percentDecode]
    split
    · rename_i hpercent
      split
      · rename_i first second hhigh hlow
        subst hpercent
        exact absurd ⟨rest, rfl⟩ (h _ _ (isEscape_of_digits hhigh hlow))
      · rfl
    · rfl

theorem spells_percentDecode (text : List Char) : Spells text (percentDecode text) := by
  induction hlength : text.length using Nat.strong_induction_on generalizing text with
  | _ length ih =>
    subst hlength
    match text with
    | [] => exact .nil
    | char :: rest =>
      by_cases hescape : ∃ byte escape, IsEscape byte escape ∧ escape <+: char :: rest
      · obtain ⟨byte, escape, hescape, tail, htail⟩ := hescape
        have hlonger : tail.length < (char :: rest).length := by
          obtain ⟨high, low, rfl, -, -⟩ := hescape
          rw [← htail, List.length_append, List.length_cons]
          omega
        rw [← htail, percentDecode_escape hescape]
        exact .escape hescape (ih _ hlonger tail rfl)
      · have hplain : ∀ byte escape, IsEscape byte escape → ¬ escape <+: char :: rest :=
          fun byte escape h hstart => hescape ⟨byte, escape, h, hstart⟩
        rw [percentDecode_plain hplain]
        exact .char hplain (ih _ (by simp) rest rfl)

/-- A text spells the bytes that it is decoded to, and no others. -/
theorem spells_iff {text : List Char} {bytes : Bytes} :
    Spells text bytes ↔ percentDecode text = bytes := by
  constructor
  · intro h
    induction h with
    | nil => rfl
    | escape hescape rest ih => rw [percentDecode_escape hescape, ih]
    | char hplain rest ih => rw [percentDecode_plain hplain, ih]
  · rintro rfl
    exact spells_percentDecode text

theorem Spells.escapes {written : Bytes} {escapes : List (List Char)} {text : List Char}
    {bytes : Bytes} (h : List.Forall₂ IsEscape written escapes) (rest : Spells text bytes) :
    Spells (escapes.flatten ++ text) (written ++ bytes) := by
  induction h with
  | nil => exact rest
  | cons hescape _ ih =>
    rw [List.flatten_cons, List.append_assoc]
    exact .escape hescape ih

/-- Whatever is written for a text spells the UTF-8 form of the text. -/
theorem Encodes.spells {text encoded : List Char} (h : Encodes text encoded) :
    Spells encoded (text.flatMap utf8EncodeChar) := by
  induction h with
  | nil => exact .nil
  | @plain char _ encoded hplain rest ih =>
    have hunescaped : ∀ byte escape, IsEscape byte escape → ¬ escape <+: char :: encoded := by
      rintro byte escape ⟨high, low, rfl, -, -⟩ hstart
      exact hplain (List.cons_prefix_cons.1 hstart).1.symm
    exact .char hunescaped ih
  | escaped hescapes rest ih => exact .escapes hescapes ih

end Escapes

section Schemes

/-- A text that is a scheme wherever it stands before a colon: two characters or more, a letter
first, and no others than ASCII letters, digits, `+`, `-` and `.`. -/
structure IsSchemeName (text : String) : Prop where
  long : 2 ≤ text.length
  letter : ∃ first rest, text.toList = first :: rest ∧ first.isAlpha
  signs : ∀ char ∈ text.toList, char.isAlphanum ∨ char = '+' ∨ char = '-' ∨ char = '.'

theorem isAlpha_eq (char : Char) : isAlpha char = char.isAlpha := by
  rw [Bool.eq_iff_iff]
  simp [isAlpha, Char.isAlpha, Char.isUpper, Char.isLower, Char.le_def]
  tauto

theorem isSchemeChar_iff {char : Char} :
    isSchemeChar char ↔ char.isAlphanum ∨ char = '+' ∨ char = '-' ∨ char = '.' := by
  simp [isSchemeChar, isAlpha_eq, Char.isAlphanum, Char.isDigit, Char.le_def, or_assoc]

theorem isScheme_iff {text : String} : isScheme text.toList ↔ IsSchemeName text := by
  have hlength : text.length = text.toList.length := (String.length_toList).symm
  constructor
  · intro h
    simp only [isScheme, Bool.and_eq_true, decide_eq_true_eq, Option.any_eq_true,
      List.all_eq_true] at h
    obtain ⟨⟨hlong, first, hfirst, hletter⟩, hsigns⟩ := h
    obtain ⟨rest, hrest⟩ := List.head?_eq_some_iff.1 hfirst
    exact ⟨hlength ▸ hlong, ⟨first, rest, hrest, isAlpha_eq first ▸ hletter⟩,
      fun char hchar => isSchemeChar_iff.1 (hsigns char hchar)⟩
  · rintro ⟨hlong, ⟨first, rest, hrest, hletter⟩, hsigns⟩
    simp only [isScheme, Bool.and_eq_true, decide_eq_true_eq, Option.any_eq_true, List.all_eq_true]
    exact ⟨⟨hlength ▸ hlong, first, by rw [hrest, List.head?_cons], isAlpha_eq first ▸ hletter⟩,
      fun char hchar => isSchemeChar_iff.2 (hsigns char hchar)⟩

theorem IsSchemeName.colon_notMem {text : String} (h : IsSchemeName text) : ':' ∉ text.toList := by
  intro hmem
  have hcolon := h.signs ':' hmem
  revert hcolon
  decide

/-- The colon that ends a scheme is the first one of the location. -/
theorem splitScheme?_eq_some_iff {location scheme rest : String} :
    splitScheme? location.toList = some (scheme.toList, rest.toList) ↔
      location = scheme ++ ":" ++ rest ∧ IsSchemeName scheme := by
  constructor
  · intro h
    simp only [splitScheme?] at h
    split at h
    · cases h
    · rename_i colon behind hdrop
      split at h
      · rename_i hscheme
        obtain ⟨hbefore, rfl⟩ := Prod.mk.inj (Option.some.inj h)
        have hcolon : colon = ':' := by
          have hhead := List.head?_dropWhile_not (· != ':') location.toList
          rw [hdrop] at hhead
          simpa using hhead
        subst hcolon
        have hwhole := List.takeWhile_append_dropWhile (p := (· != ':')) (l := location.toList)
        rw [hdrop, hbefore] at hwhole
        refine ⟨String.toList_inj.1 ?_, isScheme_iff.1 (hbefore ▸ hscheme)⟩
        simp [← hwhole]
      · cases h
  · rintro ⟨rfl, hname⟩
    have hbefore : ∀ char ∈ scheme.toList, char != ':' := by
      intro char hchar
      exact bne_iff_ne.2 fun hcolon => hname.colon_notMem (hcolon ▸ hchar)
    have htext : (scheme ++ ":" ++ rest).toList = scheme.toList ++ ':' :: rest.toList := by simp
    simp only [splitScheme?, htext, List.takeWhile_append_of_pos hbefore,
      List.dropWhile_append_of_pos hbefore, List.takeWhile_cons, List.dropWhile_cons,
      bne_self_eq_false,
      Bool.false_eq_true, if_false, List.append_nil, isScheme_iff.2 hname, if_true]

theorem splitScheme?_eq_none {location : String}
    (h : ∀ scheme rest, IsSchemeName scheme → location ≠ scheme ++ ":" ++ rest) :
    splitScheme? location.toList = none := by
  by_contra hsome
  obtain ⟨⟨scheme, rest⟩, hsplit⟩ := Option.ne_none_iff_exists'.1 hsome
  rw [← String.toList_ofList (l := scheme), ← String.toList_ofList (l := rest)] at hsplit
  obtain ⟨hlocation, hname⟩ := splitScheme?_eq_some_iff.1 hsplit
  exact h _ _ hname hlocation

/-- The file scheme is one, in any case of its letters. -/
theorem isSchemeName_of_same_file {scheme : String} (h : same scheme "file") :
    IsSchemeName scheme := by
  have hfold : scheme.toList.map Char.toLower = ['f', 'i', 'l', 'e'] := by
    have hfile : fold "file" = ['f', 'i', 'l', 'e'] := by simp [fold]
    exact (same_iff.1 h).trans hfile
  have hletters : ∀ char ∈ scheme.toList, char.isAlpha := by
    intro char hchar
    have hlower : char.toLower ∈ ['f', 'i', 'l', 'e'] := hfold ▸ List.mem_map_of_mem hchar
    have hall : ['f', 'i', 'l', 'e'].all Char.isAlpha := by decide
    rw [← Char.isAlpha_toLower_eq_isAlpha]
    exact List.all_eq_true.1 hall _ hlower
  have hlength : scheme.toList.length = 4 := by simpa using congrArg List.length hfold
  obtain ⟨first, rest, hfirst⟩ := List.exists_cons_of_length_pos (l := scheme.toList) (by omega)
  refine ⟨?_, ⟨first, rest, hfirst, hletters first (by simp [hfirst])⟩, fun char hchar => .inl ?_⟩
  · rw [← String.length_toList]
    omega
  · simp [Char.isAlphanum, hletters char hchar]

end Schemes

section Paths

/-- The path behind a scheme: the whole of it if it does not begin with two slashes, and else what
is left from the first slash behind them, if nothing or the name of the local machine stands before
it. -/
inductive IsPathOf : String → String → Prop where
  | bare {path : String} (hbare : ¬ "//".toList <+: path.toList) : IsPathOf path path
  | hierarchical {authority path : String} (hlocal : authority = "" ∨ same authority "localhost")
      (hpath : path = "" ∨ Path.isAbsolute path) : IsPathOf ("//" ++ authority ++ path) path

theorem slash_notMem {authority : String} (h : authority = "" ∨ same authority "localhost") :
    '/' ∉ authority.toList := by
  intro hmem
  rcases h with rfl | hlocal
  · simp at hmem
  · have hlower : '/'.toLower ∈ fold authority := List.mem_map_of_mem hmem
    rw [same_iff.1 hlocal] at hlower
    revert hlower
    decide

theorem isAbsolute_iff {path : String} :
    Path.isAbsolute path ↔ ∃ rest, path.toList = '/' :: rest := by
  rw [Path.isAbsolute, beq_iff_eq, List.head?_eq_some_iff]

theorem pathPart_eq_ok_iff {rest path : String} :
    pathPart rest.toList = .ok path.toList ↔ IsPathOf rest path := by
  constructor
  · intro h
    unfold pathPart at h
    split at h
    · rename_i behind hrest
      dsimp only at h
      split at h
      · rename_i hlocal
        have hpath := Except.ok.inj h
        have hwhole := List.takeWhile_append_dropWhile (p := (· != '/')) (l := behind)
        rw [hpath] at hwhole
        set authority := String.ofList (behind.takeWhile (· != '/')) with hauthority
        have htext : rest = "//" ++ authority ++ path := by
          apply String.toList_inj.1
          simp [hrest, hauthority, hwhole]
        rw [htext]
        refine .hierarchical (by simpa [hauthority] using hlocal) ?_
        rcases hstart : path.toList with _ | ⟨first, tail⟩
        · exact .inl (String.toList_eq_nil_iff.1 hstart)
        · have hfirst := List.head?_dropWhile_not (· != '/') behind
          rw [hpath, hstart] at hfirst
          exact .inr (isAbsolute_iff.2 ⟨tail, by simpa [hstart] using hfirst⟩)
      · cases h
    · rename_i hbare
      obtain rfl := String.toList_inj.1 (Except.ok.inj h)
      refine .bare fun ⟨tail, htail⟩ => hbare tail htail.symm
  · rintro (hbare | ⟨hlocal, hpath⟩)
    · unfold pathPart
      split
      · rename_i behind hrest
        exact absurd ⟨behind, hrest.symm⟩ hbare
      · rfl
    · rename_i authority
      have hbefore : ∀ char ∈ authority.toList, char != '/' := by
        intro char hchar
        exact bne_iff_ne.2 fun hslash => slash_notMem hlocal (hslash ▸ hchar)
      have htext : ("//" ++ authority ++ path).toList =
          '/' :: '/' :: (authority.toList ++ path.toList) := by
        simp
      have hsplit : path.toList.takeWhile (· != '/') = [] ∧
          path.toList.dropWhile (· != '/') = path.toList := by
        rcases hpath with rfl | habsolute
        · simp
        · obtain ⟨tail, htail⟩ := isAbsolute_iff.1 habsolute
          simp [htail]
      have hlocal' : authority.toList.isEmpty || same authority "localhost" := by
        simpa using hlocal
      rw [htext]
      simp only [pathPart, List.takeWhile_append_of_pos hbefore,
        List.dropWhile_append_of_pos hbefore, hsplit,
        List.append_nil, String.ofList_toList, hlocal', if_true]

theorem pathPart_error_kind {rest : List Char} {error : IoError}
    (h : pathPart rest = .error error) :
    error.kind = "InvalidInput" := by
  unfold pathPart at h
  split at h
  · dsimp only at h
    split at h
    · cases h
    · cases h
      rfl
  · cases h

end Paths

section Locations

variable {location scheme rest path : String}

theorem resolve_unsupported (hname : IsSchemeName scheme) (hother : ¬ same scheme "file") :
    resolve (scheme ++ ":" ++ rest) = .error (.unsupportedScheme scheme) := by
  simp only [resolve, splitScheme?_eq_some_iff.2 ⟨rfl, hname⟩, String.ofList_toList, hother]
  rfl

theorem resolve_verbatim
    (h : ∀ scheme rest, IsSchemeName scheme → location ≠ scheme ++ ":" ++ rest) :
    resolve location = .ok ⟨location⟩ := by
  simp only [resolve, splitScheme?_eq_none h]
  rfl

/-- A location with the file scheme is resolved by its path and by what this path spells. -/
theorem resolve_file (hfile : same scheme "file") (rest : String) :
    resolve (scheme ++ ":" ++ rest) = (do
      let written ← pathPart rest.toList
      if written.isEmpty then throw .noPath
      let path ← (Text.Utf8.decode (percentDecode written)).mapError .pathNotUtf8
      return ⟨path⟩) := by
  have hsplit := splitScheme?_eq_some_iff.2
    ⟨(rfl : scheme ++ ":" ++ rest = scheme ++ ":" ++ rest), isSchemeName_of_same_file hfile⟩
  simp only [resolve, hsplit, String.ofList_toList, hfile, not_true_eq_false, if_false]
  rcases pathPart rest.toList with error | written
  · rfl
  · simp only [bind, Except.bind]
    cases Text.Utf8.decode (percentDecode written) <;> cases written <;> rfl

theorem resolve_file_eq_ok_iff (hfile : same scheme "file") :
    resolve (scheme ++ ":" ++ rest) = .ok ⟨path⟩ ↔
      ∃ written, IsPathOf rest written ∧ written ≠ "" ∧
        Spells written.toList (Text.Utf8.encode path) := by
  rw [resolve_file hfile]
  constructor
  · intro h
    obtain ⟨written, hwritten, h⟩ := bind_eq_ok_iff.1 h
    rw [← String.toList_ofList (l := written), pathPart_eq_ok_iff] at hwritten
    split at h
    · obtain ⟨_, hthrow, -⟩ := bind_eq_ok_iff.1 h
      cases hthrow
    · rename_i hnonempty
      obtain ⟨decoded, hdecoded, h⟩ := bind_eq_ok_iff.1 h
      obtain rfl := Source.mk.inj (pure_eq_ok_iff.1 h)
      have hspells := Text.Utf8.decode_eq_ok_iff.1 (mapError_eq_ok_iff.1 hdecoded)
      refine ⟨String.ofList written, hwritten, by simpa using hnonempty, spells_iff.2 ?_⟩
      rw [String.toList_ofList, hspells]
  · rintro ⟨written, hwritten, hnonempty, hspells⟩
    have hdecoded := Text.Utf8.decode_eq_ok_iff.2 (spells_iff.1 hspells)
    have hfull : written.toList.isEmpty = false := by simpa using hnonempty
    simp only [pathPart_eq_ok_iff.2 hwritten, hfull, hdecoded, bind, Except.bind, Except.mapError,
      Bool.false_eq_true, if_false]
    rfl

theorem resolve_file_error_kind (hfile : same scheme "file") {error : IoError}
    (h : resolve (scheme ++ ":" ++ rest) = .error error) : error.kind = "InvalidInput" := by
  rw [resolve_file hfile] at h
  rcases bind_eq_error_iff.1 h with hpart | ⟨written, -, h⟩
  · exact pathPart_error_kind hpart
  split at h
  · cases h
    rfl
  · rcases bind_eq_error_iff.1 h with hdecode | ⟨_, -, hpure⟩
    · obtain ⟨defect, -, rfl⟩ := mapError_eq_error_iff.1 hdecode
      rfl
    · cases hpure

/-- A location that begins with a slash is a path, even with a colon in it. -/
theorem resolve_absolute (path : String) : resolve ("/" ++ path) = .ok ⟨"/" ++ path⟩ := by
  refine resolve_verbatim fun scheme rest hname hlocation => ?_
  obtain ⟨first, behind, hfirst, hletter⟩ := hname.letter
  have hslash : first = '/' := by
    have htext := congrArg String.toList hlocation
    simp only [String.toList_append, hfirst, List.cons_append] at htext
    exact (List.cons.inj htext).1.symm
  subst hslash
  revert hletter
  decide

/-- The file scheme in front of what may be written for an absolute path names this path. -/
theorem resolve_encoded {encoded : String} (hfile : same scheme "file")
    (hencodes : Encodes path.toList encoded.toList) (hpart : IsPathOf rest ("/" ++ encoded)) :
    resolve (scheme ++ ":" ++ rest) = .ok ⟨"/" ++ path⟩ := by
  have hslash : Encodes ("/" ++ path).toList ("/" ++ encoded).toList := by
    rw [String.toList_append, String.toList_append]
    exact .plain (by decide) hencodes
  exact (resolve_file_eq_ok_iff hfile).2 ⟨"/" ++ encoded, hpart, by simp, hslash.spells⟩

end Locations

/-- An absolute path names itself, and so does every URI that is written for it without an
authority, with an empty one or with that of the local machine, whatever is escaped and in any case
of the scheme and the authority. Conversely the locations that are refused as unsupported are those
with another scheme. One with the file scheme names the text that its path spells, if it has a path
of the local machine that spells a text, and is refused as invalid otherwise. Every location without
a scheme is a path as it stands. -/
theorem file_uris_denote_paths :
    (∀ path encoded : String, Encodes path.toList encoded.toList →
      resolve ("/" ++ path) = .ok ⟨"/" ++ path⟩ ∧
      ∀ scheme, same scheme "file" →
        (∀ authority, authority = "" ∨ same authority "localhost" →
          resolve (scheme ++ "://" ++ authority ++ "/" ++ encoded) = .ok ⟨"/" ++ path⟩) ∧
        (¬ "//".toList <+: ("/" ++ encoded).toList →
          resolve (scheme ++ ":" ++ "/" ++ encoded) = .ok ⟨"/" ++ path⟩)) ∧
    ∀ location,
      ((∃ error, resolve location = .error error ∧ error.kind = "Unsupported") ↔
        ∃ scheme rest, location = scheme ++ ":" ++ rest ∧ IsSchemeName scheme ∧
          ¬ same scheme "file") ∧
      (∀ scheme rest, location = scheme ++ ":" ++ rest → same scheme "file" →
        (∀ path, resolve location = .ok ⟨path⟩ ↔
          ∃ written, IsPathOf rest written ∧ written ≠ "" ∧
            Spells written.toList (Text.Utf8.encode path)) ∧
        ∀ error, resolve location = .error error → error.kind = "InvalidInput") ∧
      ((¬ ∃ scheme rest, location = scheme ++ ":" ++ rest ∧ IsSchemeName scheme) →
        resolve location = .ok ⟨location⟩) := by
  refine ⟨fun path encoded hencodes => ⟨resolve_absolute path, fun scheme hfile => ⟨?_, ?_⟩⟩,
    fun location => ⟨⟨?_, ?_⟩, ?_, ?_⟩⟩
  · intro authority hlocal
    have habsolute : Path.isAbsolute ("/" ++ encoded) := by simp [isAbsolute_iff]
    have hlocation : scheme ++ "://" ++ authority ++ "/" ++ encoded =
        scheme ++ ":" ++ ("//" ++ authority ++ ("/" ++ encoded)) := by
      apply String.toList_inj.1
      simp
    rw [hlocation]
    exact resolve_encoded hfile hencodes (.hierarchical hlocal (.inr habsolute))
  · intro hbare
    rw [String.append_assoc]
    exact resolve_encoded hfile hencodes (.bare hbare)
  · rintro ⟨error, herror, hkind⟩
    by_cases hscheme : ∃ scheme rest, IsSchemeName scheme ∧ location = scheme ++ ":" ++ rest
    · obtain ⟨scheme, rest, hname, rfl⟩ := hscheme
      refine ⟨scheme, rest, rfl, hname, fun hfile => ?_⟩
      simp [resolve_file_error_kind hfile herror] at hkind
    · have hpath := resolve_verbatim fun scheme rest hname h => hscheme ⟨scheme, rest, hname, h⟩
      rw [hpath] at herror
      cases herror
  · rintro ⟨scheme, rest, rfl, hname, hother⟩
    exact ⟨_, resolve_unsupported hname hother, rfl⟩
  · rintro scheme rest rfl hfile
    exact ⟨fun path => resolve_file_eq_ok_iff hfile, fun error => resolve_file_error_kind hfile⟩
  · intro hscheme
    exact resolve_verbatim fun scheme rest hname h => hscheme ⟨scheme, rest, h, hname⟩

/-- A percent sign and a letter of two bytes are escaped in digits of either case, and the colon is
not. -/
theorem escaped_letter_and_colon :
    Encodes "%é:x".toList "%25%c3%A9:x".toList ∧
      resolve "FILE://LocalHost/%25%c3%A9:x" = .ok ⟨"/%é:x"⟩ := by
  have hencodes : Encodes "%é:x".toList "%25%c3%A9:x".toList := by
    have hpercent : List.Forall₂ IsEscape (utf8EncodeChar '%') [['%', '2', '5']] :=
      .cons ⟨'2', '5', rfl, by decide, by decide⟩ .nil
    have hletter : List.Forall₂ IsEscape (utf8EncodeChar 'é') [['%', 'c', '3'], ['%', 'A', '9']] :=
      .cons ⟨'c', '3', rfl, by decide, by decide⟩ (.cons ⟨'A', '9', rfl, by decide, by decide⟩ .nil)
    exact .escaped hpercent (.escaped hletter (.plain (by decide) (.plain (by decide) .nil)))
  have hfile : same "FILE" "file" := by decide +kernel
  have hlocal : same "LocalHost" "localhost" := by decide +kernel
  exact ⟨hencodes, ((file_uris_denote_paths.1 _ _ hencodes).2 "FILE" hfile).1 "LocalHost"
    (.inr hlocal)⟩

end CredentialWatch.Location
