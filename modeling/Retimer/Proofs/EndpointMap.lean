import Mathlib.Data.List.Perm.Subperm
import Mathlib.Data.List.Nodup
import Retimer.Endpoint

/-!
# What an endpoint map holds

A map is a list of pairs, but nobody who uses it sees the list. What it holds is told by `find?`,
and everything here is said through `find?`: that the order of the pairs makes no difference, that
a listing is ascending, that there is always room for one more channel.

An endpoint knows its channel, so a map could contradict itself by keeping an endpoint under
another channel's key. `EndpointMap.Keyed` says that a map does not.

## Main results

* `EndpointMap.find?_congr`, `EndpointMap.toList_congr`: the order of the pairs does not show
* `EndpointMap.insert?_eq`: a map is never full
* `EndpointMap.toList_insertAll`: endpoints put in come back in ascending order
-/

namespace Retimer

variable {η : Type}

/-! ## Channels in order -/

namespace Channel

theorem nodup_all : all.Nodup := by decide

theorem ascending_all : all.Pairwise fun c d => c.toNat < d.toNat := by decide

theorem first_sublist_all (count : Nat) : (first count).Sublist all := List.take_sublist _ _

theorem nodup_first (count : Nat) : (first count).Nodup :=
  nodup_all.sublist (first_sublist_all count)

theorem map_toNat_first {count : Nat} (h : count ≤ maxChannels) :
    (first count).map toNat = List.range count := by
  have hall : all.map toNat = List.range maxChannels := by decide
  rw [first, List.map_take, hall, List.take_range, Nat.min_eq_left h]

/-- The channels before one of the first few are all that come before it. -/
theorem range_of_append_cons {cs rest : List Channel} {c : Channel} {count : Nat}
    (hcount : count ≤ maxChannels) (h : cs ++ c :: rest = first count) :
    cs.map toNat = List.range c.toNat ∧ c.toNat < count := by
  have hrange : cs.map toNat ++ c.toNat :: rest.map toNat = List.range count := by
    rw [← map_toNat_first hcount, ← h, List.map_append, List.map_cons]
  have hplace : (List.range count)[cs.length]? = some c.toNat := by simp [← hrange]
  obtain ⟨hlt, heq⟩ := List.getElem?_eq_some_iff.mp hplace
  rw [List.length_range] at hlt
  rw [List.getElem_range] at heq
  have hbefore : (List.range count).take cs.length = cs.map toNat := by simp [← hrange]
  rw [List.take_range, Nat.min_eq_left (Nat.le_of_lt hlt), heq] at hbefore
  exact ⟨hbefore.symm, heq ▸ hlt⟩

end Channel

theorem ChannelCount.toNat_le (count : ChannelCount) : count.toNat ≤ maxChannels := by
  cases count <;> decide

namespace EndpointMap

/-! ## Finding and holding -/

theorem find?_eq_some_iff {m : EndpointMap η} {c : Channel} {e : Endpoint η} :
    m.find? c = some e ↔ (c, e) ∈ m.pairs := by
  obtain ⟨pairs, hnd⟩ := m
  simp only [find?, Option.map_eq_some_iff]
  constructor
  · rintro ⟨p, hp, rfl⟩
    have hc : p.1 = c := by simpa using List.find?_some hp
    exact hc ▸ List.mem_of_find?_eq_some hp
  · intro h
    obtain ⟨q, hq⟩ : ∃ q, pairs.find? (·.1 = c) = some q :=
      Option.isSome_iff_exists.mp (List.find?_isSome.mpr ⟨_, h, by simp⟩)
    have hc : q.1 = c := by simpa using List.find?_some hq
    have heq : q = (c, e) :=
      List.inj_on_of_nodup_map hnd (List.mem_of_find?_eq_some hq) h hc
    exact ⟨q, hq, by rw [heq]⟩

/-- The order of the pairs makes no difference to what is found. -/
theorem find?_congr {m n : EndpointMap η} (h : m.pairs.Perm n.pairs) (c : Channel) :
    m.find? c = n.find? c := by
  ext e
  rw [find?_eq_some_iff, find?_eq_some_iff, h.mem_iff]

/-- Nor does it make any to the listing. -/
theorem toList_congr {m n : EndpointMap η} (h : m.pairs.Perm n.pairs) : m.toList = n.toList := by
  rw [toList, toList, funext (find?_congr h)]

theorem mem_toList_iff {m : EndpointMap η} {e : Endpoint η} :
    e ∈ m.toList ↔ ∃ c, m.find? c = some e := by
  simp [toList, Channel.mem_all]

theorem eq_empty_of_find? {m : EndpointMap η} (h : ∀ c, m.find? c = none) : m = empty := by
  obtain ⟨pairs, hnd⟩ := m
  cases pairs with
  | nil => rfl
  | cons p ps => simpa [find?] using h p.1

@[simp] theorem toList_empty : (empty : EndpointMap η).toList = [] := rfl

/-! ## Room -/

/-- There are no more keys than channels. -/
theorem length_pairs_le (m : EndpointMap η) : m.pairs.length ≤ maxChannels := by
  have h := (m.nodup_keys.subperm fun c _ => c.mem_all).length_le
  simpa [Channel.all] using h

/-- A map has room for every channel, so none is ever refused. -/
@[simp] theorem insert?_eq (m : EndpointMap η) (c : Channel) (e : Endpoint η) :
    m.insert? c e = some (m.insert c e) :=
  if_pos (length_pairs_le _)

/-! ## Endpoints under their own channels -/

/-- Every endpoint is kept under its own channel. -/
def Keyed (m : EndpointMap η) : Prop := ∀ c e, m.find? c = some e → e.channel = c

theorem keyed_empty : (empty : EndpointMap η).Keyed := nofun

theorem Keyed.insert {m : EndpointMap η} (h : m.Keyed) (e : Endpoint η) :
    (m.insert e.channel e).Keyed := by
  intro c f hf
  rw [find?_insert] at hf
  split at hf
  · rename_i hc
    rw [← Option.some.inj hf, hc]
  · exact h c f hf

theorem Keyed.erase {m : EndpointMap η} (h : m.Keyed) (c : Channel) : (m.erase c).Keyed := by
  intro d f hf
  rw [find?_erase] at hf
  split at hf
  · cases hf
  · exact h d f hf

theorem Keyed.map_channel_toList {m : EndpointMap η} (h : m.Keyed) :
    m.toList.map Endpoint.channel = Channel.all.filter fun c => (m.find? c).isSome := by
  rw [toList, List.map_filterMap, ← List.filterMap_eq_filter]
  refine List.filterMap_congr ?_
  intro c _
  cases hc : m.find? c with
  | none => simp [Option.guard, hc]
  | some e => simp [Option.guard, hc, h c e hc]

/-- **A listing is strictly ascending.** -/
theorem Keyed.ascending_toList {m : EndpointMap η} (h : m.Keyed) :
    (m.toList.map fun e => e.channel.toNat).Pairwise (· < ·) := by
  have hasc : (m.toList.map Endpoint.channel).Pairwise fun c d => c.toNat < d.toNat := by
    rw [h.map_channel_toList]
    exact Channel.ascending_all.sublist List.filter_sublist
  rw [List.pairwise_map] at hasc ⊢
  exact hasc

theorem Keyed.nodup_channel_toList {m : EndpointMap η} (h : m.Keyed) :
    (m.toList.map Endpoint.channel).Nodup := by
  rw [h.map_channel_toList]
  exact Channel.nodup_all.sublist List.filter_sublist

theorem Keyed.map_channel_pairs {m : EndpointMap η} (h : m.Keyed) :
    (m.pairs.map Prod.snd).map Endpoint.channel = m.pairs.map Prod.fst := by
  rw [List.map_map]
  refine List.map_congr_left ?_
  intro p hp
  exact h p.1 p.2 (find?_eq_some_iff.mpr hp)

/-- A listing leaves nothing out and shows nothing twice. -/
theorem Keyed.toList_perm {m : EndpointMap η} (h : m.Keyed) :
    m.toList.Perm (m.pairs.map Prod.snd) := by
  have hlisted : m.toList.Nodup := h.nodup_channel_toList.of_map
  have hstored : (m.pairs.map Prod.snd).Nodup := by
    refine List.Nodup.of_map Endpoint.channel ?_
    rw [h.map_channel_pairs]
    exact m.nodup_keys
  refine (List.perm_ext_iff_of_nodup hlisted hstored).mpr ?_
  intro e
  simp [mem_toList_iff, find?_eq_some_iff]

/-- The keys are the channels that a listing goes through. -/
theorem Keyed.keys_perm {m : EndpointMap η} (h : m.Keyed) :
    (m.pairs.map Prod.fst).Perm (m.toList.map Endpoint.channel) := by
  rw [← h.map_channel_pairs]
  exact (h.toList_perm.map _).symm

/-! ## Putting endpoints in -/

/-- The map with endpoints put in one after the other, each under its own channel. -/
def insertAll (m : EndpointMap η) (es : List (Endpoint η)) : EndpointMap η :=
  es.foldl (fun m e => m.insert e.channel e) m

@[simp] theorem insertAll_nil (m : EndpointMap η) : m.insertAll [] = m := rfl

@[simp] theorem insertAll_cons (m : EndpointMap η) (e : Endpoint η) (es : List (Endpoint η)) :
    m.insertAll (e :: es) = (m.insert e.channel e).insertAll es := rfl

theorem Keyed.insertAll {m : EndpointMap η} (h : m.Keyed) (es : List (Endpoint η)) :
    (m.insertAll es).Keyed := by
  induction es generalizing m with
  | nil => exact h
  | cons e es ih => exact ih (h.insert e)

theorem find?_insertAll (m : EndpointMap η) {es : List (Endpoint η)}
    (hnd : (es.map Endpoint.channel).Nodup) (c : Channel) :
    (m.insertAll es).find? c = (es.find? (·.channel = c)).or (m.find? c) := by
  induction es generalizing m with
  | nil => rfl
  | cons e es ih =>
    obtain ⟨he, hes⟩ := List.nodup_cons.mp hnd
    rw [insertAll_cons, ih _ hes, find?_insert]
    by_cases hc : e.channel = c
    · have hnone : es.find? (·.channel = c) = none := by
        refine List.find?_eq_none.mpr ?_
        intro f hf hfc
        refine he ?_
        rw [hc, ← of_decide_eq_true hfc]
        exact List.mem_map_of_mem hf
      simp [hnone, hc]
    · simp [hc, Ne.symm hc]

/-- Looking endpoints up by ascending channel lists them as they are, if they ascend. -/
theorem filterMap_find?_channel {cs : List Channel} {es : List (Endpoint η)} (hnd : cs.Nodup)
    (h : (es.map Endpoint.channel).Sublist cs) :
    cs.filterMap (fun c => es.find? (·.channel = c)) = es := by
  induction cs generalizing es with
  | nil =>
    obtain rfl : es = [] := by simpa using h
    rfl
  | cons c cs ih =>
    obtain ⟨hc, hcs⟩ := List.nodup_cons.mp hnd
    cases es with
    | nil => simp
    | cons e es =>
      rw [List.map_cons, List.cons_sublist_cons'] at h
      rcases h with h | ⟨rfl, h⟩
      · have hnone : (e :: es).find? (·.channel = c) = none := by
          refine List.find?_eq_none.mpr ?_
          intro f hf hfc
          refine hc (h.subset ?_)
          rw [← of_decide_eq_true hfc, ← List.map_cons]
          exact List.mem_map_of_mem hf
        rw [List.filterMap_cons, hnone]
        exact ih hcs h
      · have hrest : ∀ d ∈ cs, (e :: es).find? (·.channel = d) = es.find? (·.channel = d) := by
          intro d hd
          have hne : e.channel ≠ d := fun heq => hc (heq ▸ hd)
          simp [hne]
        rw [List.filterMap_cons, List.find?_cons_of_pos (by simp), List.filterMap_congr hrest,
          ih hcs h]

/-- Endpoints put into an empty map from the first channel upwards are listed as they were put
in. -/
theorem toList_insertAll {es : List (Endpoint η)} {count : Nat}
    (h : es.map Endpoint.channel <+: Channel.first count) :
    ((empty : EndpointMap η).insertAll es).toList = es := by
  have hall : (es.map Endpoint.channel).Sublist Channel.all :=
    h.sublist.trans (Channel.first_sublist_all count)
  have hfind : ((empty : EndpointMap η).insertAll es).find? =
      fun c => es.find? (·.channel = c) := by
    funext c
    rw [find?_insertAll _ (Channel.nodup_all.sublist hall), find?_empty, Option.or_none]
  rw [toList, hfind]
  exact filterMap_find?_channel Channel.nodup_all hall

theorem toList_insertAll_of_eq {es : List (Endpoint η)} {count : Nat}
    (h : es.map Endpoint.channel = Channel.first count) :
    ((empty : EndpointMap η).insertAll es).toList = es := by
  have hprefix : es.map Endpoint.channel <+: Channel.first count := h ▸ List.prefix_rfl
  exact toList_insertAll hprefix

end EndpointMap

end Retimer
