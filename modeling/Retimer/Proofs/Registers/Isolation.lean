import Retimer.Proofs.Registers.Banks

/-!
# Channels do not get in each other's way

Every programming goes through the same two shared registers, so each one finds them as the one
before it left them. That must not matter: on a part with banks, what a channel's registers come to
is to depend on what was asked for that channel, and on nothing else.

The whole of a sequence of programmings is told here by two projections. The bank of a channel
takes part in the programmings of that channel only, and since a recipe decides the same bits at
either rate, the last of them leaves no trace of those before it. The shared registers take part in
all of them, and there too the last one is all that counts. Nothing is commuted with anything: two
sequences that agree in their projections come to the same.

## Main results

* `Bench.Contents.bank_programmedAll`: a bank is what the last programming of its channel made it
* `Bench.Contents.shared_programmedAll`: so are the shared registers, whatever channel it was for
* `channels_isolated`: what follows for sequences of programmings, and for their order
-/

namespace Retimer

open Bench (RegisterFile Contents BankedPart)

variable {σ η : Type}

/-! ## Recipes overwrite each other -/

/-- A recipe decides the same bits of a channel at either rate. -/
theorem overlay_laneWrites (c d : Channel) (rate other : LineRate) :
    MaskedWrite.Overlay (laneWrites c rate) (laneWrites d other) :=
  MaskedWrite.overlay_of_map_eq rfl

/-- And it decides the same bits of the shared registers for every channel. -/
theorem overlay_selecting (c d : Channel) (rate other : LineRate) :
    MaskedWrite.Overlay (c.selecting rate) (d.selecting other) :=
  MaskedWrite.overlay_of_map_eq rfl

/-- Selecting a channel makes a difference between channels only in the channel select. -/
theorem get_storeAll_selecting (c d : Channel) (rate other : LineRate) (file : RegisterFile)
    {address : UInt8} (h : address ≠ Register.channelSelect.address) :
    (MaskedWrite.storeAll (c.selecting rate) file).get address =
      (MaskedWrite.storeAll (d.selecting other) file).get address :=
  ((MaskedWrite.get_store _ _ _).trans (if_neg h)).trans
    ((MaskedWrite.get_store _ _ _).trans (if_neg h)).symm

/-! ## Sequences of programmings -/

namespace Bench.Contents

/-- What a part with banks holds after channels were programmed in turn. -/
def programmedAll (x : Contents) (calls : List (Channel × LineRate)) : Contents :=
  calls.foldl (fun x call => x.programmed call.1 call.2) x

@[simp] theorem shared_programmed (x : Contents) (c : Channel) (rate : LineRate) :
    (x.programmed c rate).shared = MaskedWrite.storeAll (c.selecting rate) x.shared := rfl

@[simp] theorem bank_programmed (x : Contents) (c d : Channel) (rate : LineRate) :
    (x.programmed c rate).bank d =
      if d = c then MaskedWrite.storeAll (laneWrites c rate) (x.bank c) else x.bank d := rfl

theorem programmedAll_concat (x : Contents) (calls : List (Channel × LineRate))
    (call : Channel × LineRate) :
    x.programmedAll (calls ++ [call]) = (x.programmedAll calls).programmed call.1 call.2 := by
  rw [programmedAll, List.foldl_append]
  rfl

/-- **A bank is what the last programming of its channel made it.** -/
theorem bank_programmedAll (x : Contents) (calls : List (Channel × LineRate)) (d : Channel) :
    (x.programmedAll calls).bank d =
      (calls.filter (·.1 = d)).getLast?.elim (x.bank d) fun call =>
        MaskedWrite.storeAll (laneWrites d call.2) (x.bank d) := by
  induction calls using List.reverseRecOn with
  | nil => rfl
  | append_singleton calls call ih =>
    rw [programmedAll_concat, bank_programmed, List.filter_append]
    by_cases h : call.1 = d
    · obtain ⟨c, rate⟩ := call
      obtain rfl : c = d := h
      rw [if_pos rfl, ih, List.filter_singleton, decide_eq_true rfl, cond_true,
        List.getLast?_concat, Option.elim_some]
      -- What was there before is either as it was at the start, or an earlier programming.
      cases (calls.filter (·.1 = c)).getLast? with
      | none => rfl
      | some earlier => exact MaskedWrite.storeAll_storeAll (overlay_laneWrites _ _ _ _) _
    · rw [if_neg (Ne.symm h), List.filter_singleton, decide_eq_false h, cond_false,
        List.append_nil]
      exact ih

/-- **The shared registers are what the last programming made them.** -/
theorem shared_programmedAll (x : Contents) (calls : List (Channel × LineRate)) :
    (x.programmedAll calls).shared =
      calls.getLast?.elim x.shared fun call =>
        MaskedWrite.storeAll (call.1.selecting call.2) x.shared := by
  induction calls using List.reverseRecOn with
  | nil => rfl
  | append_singleton calls call ih =>
    rw [programmedAll_concat, shared_programmed, ih, List.getLast?_concat, Option.elim_some]
    cases calls.getLast? with
    | none => rfl
    | some earlier => exact MaskedWrite.storeAll_storeAll (overlay_selecting _ _ _ _) _

end Bench.Contents

variable [Bus σ]

/-- On a bus without faults, every programming succeeds. -/
theorem configure_of_faultless (hσ : Faultless σ) (c : Channel) (rate : LineRate) (w : σ) :
    ((configure c rate : Attempt σ η Unit).run.run w).value = .ok () := by
  obtain ⟨blocks, w', -, hanswered, hrun⟩ := @configure_run σ η _ c rate w
  rw [hrun]
  exact hanswered.verdict_eq_ok hσ

/-- Without faults, a sequence of programmings succeeds throughout, and makes of the part what it
makes of its contents. -/
theorem configureAll_contents [Banked σ] (hσ : Faultless σ) (calls : List (Channel × LineRate))
    (w : σ) :
    ((configureAll calls : Action σ η _).run w).value = calls.map (fun _ => .ok ()) ∧
      Banked.contents ((configureAll calls : Action σ η _).run w).world =
        (Banked.contents w).programmedAll calls := by
  induction calls generalizing w with
  | nil => exact ⟨rfl, rfl⟩
  | cons call calls ih =>
    obtain ⟨hvalue, hcontents⟩ :=
      ih ((configure call.1 call.2 : Attempt σ η Unit).run.run w).world
    refine ⟨?_, ?_⟩
    · simp [configureAll, configure_of_faultless hσ, hvalue]
    · simp only [configureAll, Action.run_bind, Action.run_pure, hcontents,
        configure_contents hσ]
      rfl

/-! ## The part with banks -/

theorem Bench.BankedPart.faultless : Faultless BankedPart := by
  intro address part
  refine ⟨?_, fun value => ?_⟩
  · simp only [Bus.readByte]
    cases part.contents.reached? address <;> rfl
  · simp only [Bus.writeByte]
    cases part.contents.write? address value <;> rfl

theorem filter_channel_eq_nil {calls : List (Channel × LineRate)} {d : Channel}
    (h : d ∉ calls.map Prod.fst) : calls.filter (·.1 = d) = [] := by
  rw [List.filter_eq_nil_iff]
  intro call hcall heq
  exact h (of_decide_eq_true heq ▸ List.mem_map_of_mem hcall)

/-- If one of two sequences asks for anything, so does the other, if they agree in what they ask for
each channel. -/
theorem ne_nil_of_filter_eq {calls others : List (Channel × LineRate)}
    (h : ∀ d, others.filter (·.1 = d) = calls.filter (·.1 = d)) (hcalls : calls ≠ []) :
    others ≠ [] := by
  obtain ⟨call, hcall⟩ := List.exists_mem_of_ne_nil calls hcalls
  have hmem : call ∈ others.filter (·.1 = call.1) := by
    rw [h]
    simp [hcall]
  exact List.ne_nil_of_mem (List.mem_of_mem_filter hmem)

/-- **Channels are isolated.** On a part with banks, whatever it held and whatever its select
register held, a sequence of programmings succeeds throughout. It leaves the bank of a channel that
it does not name as it was, and the bank of one that it does name as a single programming at the
last rate asked for that channel would have left it. So two sequences that ask the same of each
channel in the same order leave the same banks, and differ at most in the channel select. -/
theorem channels_isolated (part : BankedPart) (calls : List (Channel × LineRate)) :
    let after (calls : List (Channel × LineRate)) :=
      ((configureAll calls : Action BankedPart η _).run part).world.contents
    ((configureAll calls : Action BankedPart η _).run part).value = calls.map (fun _ => .ok ()) ∧
    (∀ d, d ∉ calls.map Prod.fst → (after calls).bank d = part.contents.bank d) ∧
    (∀ earlier later d rate, calls = earlier ++ (d, rate) :: later → d ∉ later.map Prod.fst →
      (after calls).bank d =
          ((configure d rate : Attempt BankedPart η Unit).run.run part).world.contents.bank d ∧
        (after calls).bank d =
          MaskedWrite.storeAll (laneWrites d rate) (part.contents.bank d)) ∧
    ∀ others, (∀ d, others.filter (·.1 = d) = calls.filter (·.1 = d)) →
      (after others).bank = (after calls).bank ∧
        ∀ address, address ≠ Register.channelSelect.address →
          (after others).shared.get address = (after calls).shared.get address := by
  intro after
  have hafter (calls : List (Channel × LineRate)) :
      after calls = part.contents.programmedAll calls :=
    (configureAll_contents BankedPart.faultless calls part).2
  have hbank (calls : List (Channel × LineRate)) (d : Channel) :=
    part.contents.bank_programmedAll calls d
  refine ⟨(configureAll_contents BankedPart.faultless calls part).1, ?_, ?_, ?_⟩
  · intro d hd
    rw [hafter, hbank, filter_channel_eq_nil hd, List.getLast?_nil, Option.elim_none]
  · rintro earlier later d rate rfl hd
    have hlast : ((earlier ++ (d, rate) :: later).filter (·.1 = d)).getLast? = some (d, rate) := by
      simp [List.filter_append, filter_channel_eq_nil hd]
    have hsingle := congrArg (·.bank d)
      (@configure_contents BankedPart η _ _ BankedPart.faultless d rate part)
    simp only [Contents.bank_programmed, if_true] at hsingle
    rw [hafter, hbank, hlast, Option.elim_some]
    exact ⟨hsingle.symm, rfl⟩
  · intro others hothers
    refine ⟨?_, ?_⟩
    · funext d
      rw [hafter, hafter, hbank, hbank, hothers]
    · intro address haddress
      rw [hafter, hafter, Contents.shared_programmedAll, Contents.shared_programmedAll]
      -- The last calls may be for different channels, but there is one in both or in neither.
      rcases List.eq_nil_or_concat calls with rfl | ⟨calls, ⟨c, rate⟩, rfl⟩
      · have hnil : others = [] := by
          by_contra hne
          exact ne_nil_of_filter_eq (fun d => (hothers d).symm) hne rfl
        rw [hnil]
      · obtain ⟨others, ⟨d, other⟩, rfl⟩ :=
          (List.eq_nil_or_concat others).resolve_left (ne_nil_of_filter_eq hothers (by simp))
        simp only [List.concat_eq_append, List.getLast?_concat, Option.elim_some]
        exact get_storeAll_selecting d c other rate _ haddress

end Retimer
