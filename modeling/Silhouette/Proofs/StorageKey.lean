import Silhouette.Host.Storage
import Silhouette.Proofs.FormatText
import Silhouette.Proofs.Table

/-! Storage keys tell ids and formats apart. The text of an id has two digits for every byte and so always the
same length; what follows it in a key is never taken for a part of it, whatever points and digits it has. And no
format that was read has the text of another one: a tag that spells a format with a name of its own is read as
that format. -/
namespace Silhouette

namespace Text.Hex

theorem length_encodeChars (bytes : List UInt8) :
    (encodeChars bytes).length = 2 * bytes.length := by
  induction bytes with
  | nil => rfl
  | cons b rest ih =>
    simp only [encodeChars, List.length_cons, ih]
    omega

private theorem digit_injective : ∀ m < 16, ∀ n < 16, digit m = digit n → m = n := by decide

/-- The two digits of a byte give back its two halves. -/
theorem encodeChars_injective {as bs : List UInt8} (same : encodeChars as = encodeChars bs) :
    as = bs := by
  induction as generalizing bs with
  | nil =>
    cases bs with
    | nil => rfl
    | cons b bs => cases same
  | cons a as ih =>
    cases bs with
    | nil => cases same
    | cons b bs =>
      simp only [encodeChars, List.cons.injEq] at same
      obtain ⟨high, low, rest⟩ := same
      have small_a := a.toNat_lt
      have small_b := b.toNat_lt
      have highs := digit_injective _ (by omega) _ (by omega) high
      have lows := digit_injective _ (by omega) _ (by omega) low
      have bytes : a.toNat = b.toNat := by omega
      rw [UInt8.toNat_inj.mp bytes, ih rest]

end Text.Hex

namespace AssetId

theorem toList_text (id : AssetId) : id.text.toList = Text.Hex.encodeChars id.bytes :=
  String.toList_ofList

theorem length_text (id : AssetId) : id.text.toList.length = 64 := by
  rw [toList_text, Text.Hex.length_encodeChars, id.length_bytes]

theorem text_injective {a b : AssetId} (same : a.text = b.text) : a = b := by
  have bytes := Text.Hex.encodeChars_injective (String.ofList_injective same)
  cases a
  cases b
  cases bytes
  rfl

end AssetId

namespace Format

/-- The text of a format that a normal tag names is a tag that names the same format. -/
theorem ofTag_extension_ofTag (tag : String) : ofTag (ofTag tag).extension = ofTag tag := by
  have known : ∀ f ∈ named, ofTag f.extension = f := by decide
  rcases ofTag_cases tag with ⟨member, -⟩ | other
  · exact known _ member
  · rw [other, extension, other]

/-- Formats that were read have different texts. -/
theorem IsRead.extension_inj {f g : Format} (first : IsRead f) (second : IsRead g)
    (same : f.extension = g.extension) : f = g := by
  obtain ⟨s, rfl⟩ := first.exists_tag
  obtain ⟨t, rfl⟩ := second.exists_tag
  calc parse s = ofTag (parse s).extension := (ofTag_extension_ofTag _).symm
    _ = ofTag (parse t).extension := by rw [same]
    _ = parse t := ofTag_extension_ofTag _

end Format

namespace StorageKey

variable {a b : AssetId} {f g : Format}

/-- Equal keys are keys of one id with formats of one text. -/
theorem of_eq_of_iff : of a f = of b g ↔ a = b ∧ f.extension = g.extension := by
  constructor
  · intro same
    have texts : a.text ++ "." ++ f.extension = b.text ++ "." ++ g.extension := congrArg text same
    have letters := congrArg String.toList texts
    simp only [String.toList_append, List.append_assoc] at letters
    have lengths : a.text.toList.length = b.text.toList.length := by
      rw [AssetId.length_text, AssetId.length_text]
    obtain ⟨ids, tails⟩ := List.append_inj letters lengths
    exact ⟨AssetId.text_injective (String.toList_injective ids),
      String.toList_injective (List.append_cancel_left tails)⟩
  · rintro ⟨rfl, tails⟩
    rw [of, of, tails]

/-- Equal keys are keys of one id, whatever the formats. -/
theorem id_eq_of_of_eq (same : of a f = of b g) : a = b := (of_eq_of_iff.mp same).1

/-- **One key for each id and format.** Keys of formats that were read from any tags are equal just if ids and
formats are. So data that is kept for one asset in one format is loaded for that asset in that format, and
what is kept for any other stays as it was. -/
theorem keys_tell_assets_and_formats_apart (i j : AssetId) (s t : String) :
    (of i (.parse s) = of j (.parse t) ↔ i = j ∧ Format.parse s = Format.parse t) ∧
    ∀ (storage : Storage) (bytes : ByteArray),
      (storage.storeBytes (of i (.parse s)) bytes).loaded (of j (.parse t)) =
        if i = j ∧ Format.parse s = Format.parse t then .ok (.shared bytes)
        else storage.loaded (of j (.parse t)) := by
  have apart : of i (.parse s) = of j (.parse t) ↔ i = j ∧ Format.parse s = Format.parse t := by
    rw [of_eq_of_iff]
    refine and_congr_right fun _ => ⟨fun same => ?_, fun same => by rw [same]⟩
    exact (Format.IsRead.tag s).extension_inj (.tag t) same
  refine ⟨apart, fun storage bytes => ?_⟩
  unfold Storage.loaded Storage.storedBytes Storage.storeBytes
  rw [Table.get?_put]
  by_cases same : i = j ∧ Format.parse s = Format.parse t
  · rw [if_pos (apart.mpr same).symm, if_pos same]
  · rw [if_neg fun key => same (apart.mp key.symm), if_neg same]

/-- A tag that was not read can have the text of another format. -/
example : of default (.other "png") = of default .png := rfl

end StorageKey

end Silhouette
