import Silhouette.Proofs.Removal

/-! What a failed removal leaves in the storage of its host. The answer of the service is registered
before the target is asked whether it takes the new costume, and a registry does not forget: a removal
that fails at attaching has one asset registered, and every other failure has none. Which of the two it
was can be read off the failure. -/
namespace Silhouette

namespace Storage

/-- Storage that holds the same: the assets in the cache, the data under every key, and the count of
assets that were created. Lookups and loads may have been counted. -/
structure SameHoldings (before after : Storage) : Prop where
  cache : after.cache = before.cache
  stored : after.stored = before.stored
  created : after.created = before.created

/-- Storage that has taken one asset in and else holds the same. -/
structure Gained (before after : Storage) (asset : Asset) (bytes : ByteArray) : Prop where
  cache : after.cache = before.cache.put asset.id asset
  stored : after.stored = before.stored.put asset.storageKey bytes
  created : after.created = before.created + 1

variable {s before middle after : Storage} {asset : Asset} {bytes : ByteArray}

theorem SameHoldings.refl (s : Storage) : s.SameHoldings s := ⟨rfl, rfl, rfl⟩

theorem SameHoldings.trans (first : before.SameHoldings middle) (second : middle.SameHoldings after) :
    before.SameHoldings after :=
  ⟨second.cache.trans first.cache, second.stored.trans first.stored,
    second.created.trans first.created⟩

theorem SameHoldings.gained (first : before.SameHoldings middle)
    (second : middle.Gained after asset bytes) : before.Gained after asset bytes :=
  ⟨by rw [second.cache, first.cache], by rw [second.stored, first.stored],
    by rw [second.created, first.created]⟩

/-- What the registry takes in is held from then on. -/
theorem createAsset_gained (created : s.createAsset format bytes = .ok (asset, after)) :
    asset = .ofBytes format bytes ∧ s.Gained after asset bytes := by
  unfold createAsset at created
  split at created
  · cases created
  · cases created
    exact ⟨rfl, rfl, rfl, rfl⟩

end Storage

theorem Host.Consulted.sameHoldings {before after : Host} (consulted : before.Consulted after) :
    before.storage.SameHoldings after.storage := by
  obtain ⟨lookups, loads, rfl⟩ := consulted
  exact ⟨rfl, rfl, rfl⟩

namespace Install

/-- The second letter of a reason. The reasons for which an installation fails differ in it from stage
to stage. -/
def secondLetter (reason : String) : Option Char := reason.toList[1]?

theorem secondLetter_append (rest : String) (known : secondLetter reason = some letter) :
    secondLetter (reason ++ rest) = some letter := by
  have long : 1 < reason.toList.length := (List.getElem?_eq_some_iff.mp known).1
  unfold secondLetter
  rw [String.toList_append, List.getElem?_append_left long]
  exact known

/-- The letter of a list's objections. -/
theorem secondLetter_objection (cause : VariantError) :
    secondLetter cause.message = some 'o' ∨ secondLetter cause.message = some 's' := by
  cases cause with
  | empty => exact .inl rfl
  | indexOutOfRange index len =>
    refine .inl ?_
    iterate 4 refine secondLetter_append _ ?_
    rfl
  | duplicateCostume id => exact .inl (secondLetter_append _ (secondLetter_append _ rfl))
  | duplicateAsset id => exact .inr (secondLetter_append _ (secondLetter_append _ rfl))

private theorem AttachRefusal.secondLetter (refusal : AttachRefusal (.installFailed reason)) :
    secondLetter reason = some 'o' ∨ secondLetter reason = some 's' ∨
      secondLetter reason = some 'i' := by
  cases refusal with
  | objection cause => exact (secondLetter_objection cause).imp_right .inl
  | binding cause => exact .inr (.inr (secondLetter_append _ rfl))

private theorem not_attachRefusal (letter : secondLetter reason = some c)
    (other : c ≠ 'o' ∧ c ≠ 's' ∧ c ≠ 'i') : ¬ AttachRefusal (.installFailed reason) := by
  intro refusal
  rcases refusal.secondLetter with same | same | same
  · exact other.1 (Option.some.inj (letter.symm.trans same))
  · exact other.2.1 (Option.some.inj (letter.symm.trans same))
  · exact other.2.2 (Option.some.inj (letter.symm.trans same))

variable {settings : RemovalSettings} {decode : ByteArray → Decoding} {h after : Host}
  {target target' : Target} {source : Costume} {output : ServiceOutput} {fresh : CostumeId}

/-- Decoding, making a skin and registering fail for reasons of their own. -/
theorem decodeOutput_not_attachRefusal (refused : decodeOutput decode timeout bytes = .error e) :
    ¬ AttachRefusal e := by
  obtain ⟨reason, rfl⟩ := decodeOutput_error refused
  nofun

theorem makeSkin_not_attachRefusal (refused : makeSkin h source bitmap = .error e) :
    ¬ AttachRefusal e := by
  obtain ⟨cause, rfl⟩ := makeSkin_error refused
  exact not_attachRefusal (secondLetter_append _ rfl) (by decide)

theorem register_not_attachRefusal (refused : register h output = .error e) : ¬ AttachRefusal e := by
  obtain ⟨cause, rfl⟩ := register_error refused
  exact not_attachRefusal (secondLetter_append _ rfl) (by decide)

/-- A failed installation has registered its output if attaching failed, and else nothing. -/
theorem failed_storage
    (failed : install settings decode h target source output fresh = (.error e, after, target')) :
    (¬ AttachRefusal e ∧ h.storage.SameHoldings after.storage) ∨
      (AttachRefusal e ∧ h.storage.Gained after.storage
        (.ofBytes (keptFormat output.format) output.bytes) output.bytes) := by
  have ended := install_exit settings decode h target source output fresh
  rw [failed] at ended
  cases ended with
  | undecoded refused => exact .inl ⟨decodeOutput_not_attachRefusal refused, .refl _⟩
  | skinless decoded refused => exact .inl ⟨makeSkin_not_attachRefusal refused, .refl _⟩
  | unregistered decoded skinned refused =>
    obtain ⟨r, _, rfl⟩ := makeSkin_eq_ok.mp skinned
    exact .inl ⟨register_not_attachRefusal refused, .refl _⟩
  | unattached decoded skinned registered refused =>
    obtain ⟨r, _, rfl⟩ := makeSkin_eq_ok.mp skinned
    obtain ⟨storage, created, rfl⟩ := register_eq_ok registered
    obtain ⟨rfl, gained⟩ := Storage.createAsset_gained created
    exact .inr ⟨(attach_error refused).2.2, gained⟩

end Install

namespace Resolve

/-- Resolving fails for reasons of its own. -/
theorem resolve_error (refused : resolve timeout h costume = (.error e, after)) :
    ¬ Install.AttachRefusal e := by
  unfold resolve at refused
  split at refused
  · cases refused
    nofun
  · split at refused
    · cases refused
    · split at refused <;>
        obtain ⟨tried, rfl⟩ := finish_error (Prod.mk.inj refused).1 <;> nofun

end Resolve

namespace Remover

theorem not_attachRefusal_ofService (e : ServiceError) :
    ¬ Install.AttachRefusal (.ofService e) := by
  cases e <;> nofun

open Install (AttachRefusal)

open Sample

end Remover

end Silhouette
