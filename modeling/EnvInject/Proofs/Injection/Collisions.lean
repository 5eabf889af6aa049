import EnvInject.Proofs.Injection.Merging

/-!
# The collisions of an injection

A collision is reported for each name of a set that is known when the set is applied: a name of the
base or of the set of an earlier position. Which names these are does not depend on the way to merge.

* `Collision.place` : the service and the name of a collision;
* `count_overlaps` : a pair of service and name occurs once for each position where they overlap;
* `inject_collisions` : the collisions of an injection, in order.
-/

namespace EnvInject

def Collision.place (collision : Collision) : String × String := (collision.service, collision.name)

/-- At position `i` the service `service` has a name that is known there. -/
def OverlapsAt (base : Environment) (sets : List (String × SecretSet)) (service name : String)
    (i : Fin sets.length) : Prop :=
  sets[i].1 = service ∧ name ∈ sets[i].2.names ∧ Known base sets i name

instance (base : Environment) (sets : List (String × SecretSet)) (service name : String) :
    DecidablePred (OverlapsAt base sets service name) :=
  fun _ => inferInstanceAs (Decidable (_ ∧ _ ∧ _))

theorem count_map_pair {names : List String} (h : names.Nodup) (service name other : String) :
    (names.map fun n => (other, n)).count (service, name) =
      if other = service ∧ name ∈ names then 1 else 0 := by
  have hnodup : (names.map fun n => (other, n)).Nodup :=
    h.map fun a b hab => congrArg Prod.snd hab
  rw [List.Nodup.count hnodup]
  congr 1
  simp [and_comm]

theorem count_overlaps (base : Environment) (sets : List (String × SecretSet))
    (service name : String) :
    (overlaps base sets).count (service, name) =
      (Finset.univ.filter (OverlapsAt base sets service name)).card := by
  rw [overlaps, List.count_flatten, List.mapIdx_eq_ofFn, List.map_ofFn, List.sum_ofFn,
    Finset.card_filter]
  refine Finset.sum_congr rfl fun i _ => ?_
  rw [Function.comp_apply, count_map_pair ((sets.get i).2.nodup_names.filter _)]
  refine if_congr ?_ rfl rfl
  simp [OverlapsAt]

theorem places_overlay (keep : Bool) (base : Environment) (sets : List (String × SecretSet)) :
    (overlay keep base sets).collisions.map Collision.place = overlaps base sets := by
  rw [collisions_overlay, List.map_map]
  exact List.map_id _

/-- **The reported collisions are exact.** They are the overlaps of the sets in order, all of the one
kind that the policy asks for; the other way to merge reports the same services and names; and each
overlapping position is reported once. -/
theorem inject_collisions (real : Environment) (services : List String) (source : Source)
    (policy : Policy) (secrets : String → SecretSet)
    (hfetch : ∀ service ∈ services, source service policy.keyMode = .ok (secrets service))
    (hstrict : policy.strict = false) :
    ∃ injection other : Injection,
      (inject real services source policy).result = .ok injection ∧
      (inject real services source { policy with noClobber := !policy.noClobber }).result =
        .ok other ∧
      injection.collisions =
        (overlaps (policy.base real) (fetched secrets services)).map (fun o =>
          ⟨o.1, o.2, if policy.noClobber then .preserved else .overwritten⟩) ∧
      (∀ service ∈ services, Utf8.ByteOrdered (secrets service).names) ∧
      other.collisions.map Collision.place = injection.collisions.map Collision.place ∧
      ∀ service name, (injection.collisions.map Collision.place).count (service, name) =
        (Finset.univ.filter
          (OverlapsAt (policy.base real) (fetched secrets services) service name)).card := by
  have hother : (inject real services source { policy with noClobber := !policy.noClobber }).result =
      .ok (overlay (!policy.noClobber) (policy.base real) (fetched secrets services)) :=
    result_inject_lax real { policy with noClobber := !policy.noClobber } hfetch hstrict
  refine ⟨_, _, result_inject_lax real policy hfetch hstrict, hother,
    collisions_overlay _ _ _, ?_, ?_, ?_⟩
  · intro service _
    exact (secrets service).names_byteOrdered
  · rw [places_overlay, places_overlay]
  · intro service name
    rw [places_overlay, count_overlaps]

theorem inject_collisions_repeated_service :
    ∃ injection other : Injection,
      (inject (.ofPairs [("HOME", "/tmp"), ("ZONE", "us")]) ["base", "override", "base"]
        sampleRegister.source { noClobber := true, verbatimKeys := true }).result = .ok injection ∧
      (inject (.ofPairs [("HOME", "/tmp"), ("ZONE", "us")]) ["base", "override", "base"]
        sampleRegister.source { verbatimKeys := true }).result = .ok other ∧
      injection.collisions = [⟨"base", "ZONE", .preserved⟩, ⟨"override", "TOKEN", .preserved⟩,
        ⟨"base", "TOKEN", .preserved⟩, ⟨"base", "ZONE", .preserved⟩] ∧
      other.collisions.map Collision.place =
        [("base", "ZONE"), ("override", "TOKEN"), ("base", "TOKEN"), ("base", "ZONE")] := by
  obtain ⟨injection, other, hresult, hother, hcollisions, -, hplaces, -⟩ :=
    inject_collisions (.ofPairs [("HOME", "/tmp"), ("ZONE", "us")]) ["base", "override", "base"]
      sampleRegister.source { noClobber := true, verbatimKeys := true } sampleSecrets
      source_sampleRegister rfl
  have hlist : injection.collisions = [⟨"base", "ZONE", .preserved⟩,
      ⟨"override", "TOKEN", .preserved⟩, ⟨"base", "TOKEN", .preserved⟩,
      ⟨"base", "ZONE", .preserved⟩] := by
    rw [hcollisions]
    cbv
  exact ⟨injection, other, hresult, hother, hlist, hplaces.trans (hlist ▸ rfl)⟩

end EnvInject
