/-
What accepting, answering, reading, delivering and closing do to a link.
-/

import EternalTerminal.Library.Multiplexer

namespace EternalTerminal.Library.Multiplexer

variable {Id Chunk : Type} [DecidableEq Id]

namespace Link

variable {a b : Station Id Chunk} {toB toA : List (Letter Id Chunk)}
  {opened : List (Opening Id)}

/-! ### What the other role of an station does to a link -/

theorem frame_source (link : Link a b toB toA opened) {after : Station Id Chunk}
    (stages : after.stage = a.stage)
    (streams : ∀ connection, a.stage connection ≠ .absent →
      after.received connection = a.received connection ∧
        after.offered connection = a.offered connection) :
    Link after b toB toA opened := by
  constructor
  · exact link.requests_once
  · rw [stages]
    exact link.requested
  · exact link.replies_once
  · rw [stages]
    exact link.refused
  · rw [stages]
    exact link.answered
  · exact link.ids_once
  · exact link.sources_once
  · exact link.destinations_once
  · rw [stages]
    exact link.opening_stage
  · rw [stages]
    exact link.stage_opening
  · exact link.served_opening
  · exact link.destination
  · intro source stage
    rw [stages] at stage
    have present : a.stage source ≠ .absent := by
      intro absent
      rw [absent] at stage
      rcases stage with impossible | impossible
      · cases impossible
      · cases impossible
    obtain ⟨received, offered⟩ := streams source present
    rw [received, offered]
    exact link.unread stage
  · exact link.known_forward
  · exact link.known_backward
  · exact link.answer_first
  · intro opening isOpening
    rw [(streams _ (link.not_absent isOpening)).1]
    exact link.forward_flow isOpening
  · intro opening isOpening
    rw [(streams _ (link.not_absent isOpening)).2, stages]
    exact link.backward_flow isOpening

/-- The serving station does something to connections it has not made for this link. -/
theorem frame_destination (link : Link a b toB toA opened) {after : Station Id Chunk}
    (served : after.served = b.served) (grows : b.count ≤ after.count)
    (streams : ∀ connection, connection < b.count → b.stage connection = .absent →
      after.stage connection = .absent ∧
        after.received connection = b.received connection ∧
        after.offered connection = b.offered connection) :
    Link a after toB toA opened := by
  constructor
  · exact link.requests_once
  · exact link.requested
  · exact link.replies_once
  · exact link.refused
  · exact link.answered
  · exact link.ids_once
  · exact link.sources_once
  · exact link.destinations_once
  · exact link.opening_stage
  · exact link.stage_opening
  · rw [served]
    exact link.served_opening
  · intro opening isOpening
    obtain ⟨known, absent⟩ := link.destination isOpening
    exact ⟨Nat.lt_of_lt_of_le known grows, (streams _ known absent).1⟩
  · exact link.unread
  · exact link.known_forward
  · exact link.known_backward
  · exact link.answer_first
  · intro opening isOpening
    obtain ⟨known, absent⟩ := link.destination isOpening
    rw [served, (streams _ known absent).2.2]
    exact link.forward_flow isOpening
  · intro opening isOpening
    obtain ⟨known, absent⟩ := link.destination isOpening
    rw [(streams _ known absent).2.1]
    exact link.backward_flow isOpening

/-! ### The accepting station -/

theorem accept {before rest : List (Letter Id Chunk)} (link : Link a b (before ++ rest) toA opened)
    (fresh : a.Fresh) :
    Link a.accept b (before ++ .request a.count :: rest) toA opened := by
  have unasked : a.count ∉ requests (before ++ rest) := by
    intro member
    obtain ⟨letter, isLetter, isRequest⟩ := List.mem_filterMap.mp member
    cases letter with
    | request source =>
        obtain rfl : source = a.count := Option.some.inj isRequest
        cases (link.requested isLetter).symm.trans (fresh.stage (Nat.le_refl _))
    | refusal source => cases isRequest
    | answer source id => cases isRequest
    | forward id content => cases isRequest
    | backward id content => cases isRequest
  have older : ∀ letter, letter ∈ before ++ .request a.count :: rest →
      letter = .request a.count ∨ letter ∈ before ++ rest := by
    intro letter member
    simp only [List.mem_append, List.mem_cons] at member ⊢
    tauto
  constructor
  · have once := link.requests_once
    simp only [requests_append, requests_cons, Letter.request?, Option.toList_some,
      List.singleton_append] at once unasked ⊢
    exact List.nodup_middle.mpr (List.nodup_cons.mpr ⟨unasked, once⟩)
  · intro source member
    rcases older _ member with new | old
    · cases new
      exact Function.update_self ..
    · exact fresh.accept_stage (link.requested old) (by simp)
  · exact link.replies_once
  · intro source member
    exact fresh.accept_stage (link.refused member) (by simp)
  · intro source id
    rw [link.answered]
    constructor
    · exact fun known => fresh.accept_stage known (by simp)
    · exact fun known => Station.stage_of_accept known (by simp)
  · exact link.ids_once
  · exact link.sources_once
  · exact link.destinations_once
  · intro opening isOpening
    rcases link.opening_stage isOpening with answered | carrying | gone
    · exact Or.inl (fresh.accept_stage answered (by simp))
    · exact Or.inr (Or.inl (fresh.accept_stage carrying (by simp)))
    · exact Or.inr (Or.inr (fresh.accept_stage gone (by simp)))
  · intro source id stage
    rcases stage with answered | carrying
    · exact link.stage_opening (Or.inl (Station.stage_of_accept answered (by simp)))
    · exact link.stage_opening (Or.inr (Station.stage_of_accept carrying (by simp)))
  · exact link.served_opening
  · exact link.destination
  · intro source stage
    by_cases new : source = a.count
    · subst new
      exact ⟨fresh.received (Nat.le_refl _), fresh.offered (Nat.le_refl _)⟩
    · have same : a.accept.stage source = a.stage source := Function.update_of_ne new _ _
      rw [same] at stage
      exact link.unread stage
  · intro id content member
    rcases older _ member with new | old
    · cases new
    · exact link.known_forward old
  · exact link.known_backward
  · exact link.answer_first
  · intro opening isOpening
    have flow := link.forward_flow isOpening
    simpa [Station.accept] using flow
  · intro opening isOpening
    apply (link.backward_flow isOpening).keep
    rintro (answered | carrying)
    · exact Or.inl (Station.stage_of_accept answered (by simp))
    · exact Or.inr (Station.stage_of_accept carrying (by simp))

theorem readSource (link : Link a b toB toA opened) {source : Nat} {id : Id}
    (carrying : a.stage source = .carrying id) (chunk : Chunk) :
    Link (a.read source chunk) b (toB ++ [.forward id (some chunk)]) toA opened := by
  obtain ⟨own, isOwn, isSource, isId⟩ := link.stage_opening (Or.inr carrying)
  constructor
  · simpa using link.requests_once
  · intro other member
    exact link.requested (by simpa using member)
  · exact link.replies_once
  · exact link.refused
  · exact link.answered
  · exact link.ids_once
  · exact link.sources_once
  · exact link.destinations_once
  · exact link.opening_stage
  · exact link.stage_opening
  · exact link.served_opening
  · exact link.destination
  · intro other stage
    have different : other ≠ source := by
      rintro rfl
      rcases stage with impossible | impossible
      · cases carrying.symm.trans impossible
      · cases carrying.symm.trans impossible
    obtain ⟨received, offered⟩ := link.unread stage
    exact ⟨(Function.update_of_ne different _ _).trans received, offered⟩
  · intro other content member
    rcases List.mem_append.mp member with old | new
    · exact link.known_forward old
    · cases List.mem_singleton.mp new
      exact ⟨own, isOwn, isId⟩
  · exact link.known_backward
  · exact link.answer_first
  · intro opening isOpening
    have flow := link.forward_flow isOpening
    by_cases here : opening = own
    · subst here
      subst isSource
      subst isId
      have read := flow.read chunk
      simpa [Station.read] using read
    · have otherSource : opening.source ≠ source := fun same =>
        here (link.same_of_source isOpening isOwn (same.trans isSource.symm))
      have otherId : id ≠ opening.id := fun same =>
        here (link.same_of_id isOpening isOwn (same.symm.trans isId.symm))
      simpa [Station.read, otherSource, otherId]
        using flow
  · exact link.backward_flow

theorem leave (link : Link a b toB toA opened) {source : Nat} {id : Id}
    (carrying : a.stage source = .carrying id) :
    Link (a.setStage source .gone) b toB toA opened := by
  have others : ∀ {other : Nat} {stage : Stage Id}, a.stage other = stage →
      Stage.carrying id ≠ stage → (a.setStage source .gone).stage other = stage :=
    fun known different => Station.setStage_of_ne known (carrying ▸ different)
  refine
    { link with
      requested := fun member => others (link.requested member) (by simp)
      refused := fun member => others (link.refused member) (by simp)
      answered := ?_
      opening_stage := ?_
      stage_opening := ?_
      unread := ?_
      backward_flow := ?_ }
  · intro other otherId
    rw [link.answered]
    constructor
    · exact fun known => others known (by simp)
    · exact fun known => Station.stage_of_setStage known (by simp)
  · intro opening isOpening
    by_cases here : opening.source = source
    · rw [here]
      exact Or.inr (Or.inr (Function.update_self ..))
    · have same : (a.setStage source .gone).stage opening.source = a.stage opening.source :=
        Function.update_of_ne here _ _
      rw [same]
      exact link.opening_stage isOpening
  · exact fun stage => link.stage_opening (Station.live_of_setStage (by simp) (by simp) stage)
  · intro other stage
    rcases stage with requested | refused
    · exact link.unread (Or.inl (Station.stage_of_setStage requested (by simp)))
    · exact link.unread (Or.inr (Station.stage_of_setStage refused (by simp)))
  · intro opening isOpening
    exact (link.backward_flow isOpening).keep (Station.live_of_setStage (by simp) (by simp))

theorem pushForwardEnd (link : Link a b toB toA opened) {id : Id}
    (known : ∃ opening ∈ opened, opening.id = id) :
    Link a b (toB ++ [.forward id none]) toA opened := by
  refine
    { link with
      requests_once := ?_
      requested := ?_
      known_forward := ?_
      forward_flow := ?_ }
  · simpa using link.requests_once
  · intro other member
    exact link.requested (by simpa using member)
  · intro other content member
    rcases List.mem_append.mp member with old | new
    · exact link.known_forward old
    · cases List.mem_singleton.mp new
      exact known
  · intro opening isOpening
    simpa using link.forward_flow isOpening

/-- A letter for a connection that is not served any more, or one without a chunk, is
thrown away. -/
theorem popForward {id : Id} {content : Option Chunk} {rest : List (Letter Id Chunk)}
    (link : Link a b (.forward id content :: rest) toA opened)
    (lost : content = none ∨ ∀ destination, b.served destination ≠ some id) :
    Link a b rest toA opened := by
  refine
    { link with
      requests_once := ?_
      requested := ?_
      known_forward := ?_
      forward_flow := ?_ }
  · simpa using link.requests_once
  · exact fun member => link.requested (List.mem_cons_of_mem _ member)
  · exact fun member => link.known_forward (List.mem_cons_of_mem _ member)
  · intro opening isOpening
    have flow := link.forward_flow isOpening
    by_cases here : id = opening.id
    · rcases lost with rfl | notServed
      · simpa using flow
      · exact flow.stop (here ▸ notServed opening.destination) _
    · simpa [here] using flow

/-- An answer has not come yet for a connection that letters travel back for. -/
theorem popBackward {id : Id} {content : Option Chunk} {rest : List (Letter Id Chunk)}
    (link : Link a b toB (.backward id content :: rest) opened)
    (lost : content = none ∨ ∀ source, a.stage source ≠ .carrying id) :
    Link a b toB rest opened := by
  have answerFirst := List.pairwise_cons.mp link.answer_first
  refine
    { link with
      replies_once := ?_
      refused := ?_
      answered := ?_
      known_backward := ?_
      answer_first := answerFirst.2
      backward_flow := ?_ }
  · simpa using link.replies_once
  · exact fun member => link.refused (List.mem_cons_of_mem _ member)
  · intro source other
    rw [← link.answered, List.mem_cons]
    simp
  · exact fun member => link.known_backward (List.mem_cons_of_mem _ member)
  · intro opening isOpening
    have flow := link.backward_flow isOpening
    by_cases here : id = opening.id
    · rcases lost with rfl | notCarried
      · simpa using flow
      · apply flow.stop
        rintro (answered | carrying)
        · rcases List.mem_cons.mp (link.answered.mpr answered) with impossible | later
          · cases impossible
          · exact answerFirst.1 _ later id content opening.source rfl (here ▸ rfl)
        · exact notCarried opening.source (here ▸ carrying)
    · simpa [here] using flow

theorem deliverBackward {id : Id} {chunk : Chunk} {source : Nat}
    {rest : List (Letter Id Chunk)}
    (link : Link a b toB (.backward id (some chunk) :: rest) opened)
    (carrying : a.stage source = .carrying id) :
    Link (a.offer source chunk) b toB rest opened := by
  obtain ⟨own, isOwn, isSource, isId⟩ := link.stage_opening (Or.inr carrying)
  refine
    { link with
      replies_once := ?_
      refused := ?_
      answered := ?_
      unread := ?_
      known_backward := ?_
      answer_first := (List.pairwise_cons.mp link.answer_first).2
      backward_flow := ?_ }
  · simpa using link.replies_once
  · exact fun member => link.refused (List.mem_cons_of_mem _ member)
  · intro other otherId
    have answered := @link.answered other otherId
    rw [List.mem_cons] at answered
    simpa [Station.offer] using answered
  · intro other stage
    have different : other ≠ source := by
      rintro rfl
      rcases stage with impossible | impossible
      · cases carrying.symm.trans impossible
      · cases carrying.symm.trans impossible
    obtain ⟨received, offered⟩ := link.unread stage
    exact ⟨received, (Function.update_of_ne different _ _).trans offered⟩
  · exact fun member => link.known_backward (List.mem_cons_of_mem _ member)
  · intro opening isOpening
    have flow := link.backward_flow isOpening
    by_cases here : opening = own
    · subst here
      subst isSource
      subst isId
      rw [backwards_cons_chunk] at flow
      simpa [Station.offer] using flow.deliver (Or.inr carrying)
    · have otherSource : opening.source ≠ source := fun same =>
        here (link.same_of_source isOpening isOwn (same.trans isSource.symm))
      have otherId : id ≠ opening.id := fun same =>
        here (link.same_of_id isOpening isOwn (same.symm.trans isId.symm))
      simpa [Station.offer, otherSource,
        otherId] using flow

/-! ### The serving station -/

theorem readDestination (link : Link a b toB toA opened) {destination : Nat} {id : Id}
    (served : b.served destination = some id) (chunk : Chunk) :
    Link a (b.read destination chunk) toB (toA ++ [.backward id (some chunk)]) opened := by
  obtain ⟨own, isOwn, isDestination, isId⟩ := link.served_opening served
  refine
    { link with
      replies_once := ?_
      refused := ?_
      answered := ?_
      known_backward := ?_
      answer_first := ?_
      backward_flow := ?_ }
  · simpa using link.replies_once
  · intro other member
    exact link.refused (by simpa using member)
  · intro other otherId
    rw [← link.answered]
    simp
  · intro other content member
    rcases List.mem_append.mp member with old | new
    · exact link.known_backward old
    · cases List.mem_singleton.mp new
      exact ⟨own, isOwn, isId⟩
  · apply List.pairwise_append.mpr
    refine ⟨link.answer_first, List.pairwise_singleton _ _, ?_⟩
    intro earlier _ later isLast otherId content source _ impossible
    cases (List.mem_singleton.mp isLast).symm.trans impossible
  · intro opening isOpening
    have flow := link.backward_flow isOpening
    by_cases here : opening = own
    · subst here
      subst isDestination
      subst isId
      have read := flow.read chunk
      simpa [Station.read] using read
    · have otherDestination : opening.destination ≠ destination := fun same =>
        here (link.same_of_destination isOpening isOwn (same.trans isDestination.symm))
      have otherId : id ≠ opening.id := fun same =>
        here (link.same_of_id isOpening isOwn (same.symm.trans isId.symm))
      simpa [Station.read, otherDestination,
        otherId] using flow

theorem drop (link : Link a b toB toA opened) (destination : Nat) :
    Link a (b.drop destination) toB toA opened := by
  have former : ∀ {other : Nat} {id : Id},
      (b.drop destination).served other = some id → b.served other = some id := by
    intro other id served
    by_cases here : other = destination
    · subst here
      cases (Function.update_self ..).symm.trans served
    · exact (Function.update_of_ne here _ _).symm.trans served
  refine
    { link with
      served_opening := fun served => link.served_opening (former served)
      forward_flow := ?_ }
  intro opening isOpening
  exact (link.forward_flow isOpening).keep former

theorem pushBackwardEnd (link : Link a b toB toA opened) {id : Id}
    (known : ∃ opening ∈ opened, opening.id = id) :
    Link a b toB (toA ++ [.backward id none]) opened := by
  refine
    { link with
      replies_once := ?_
      refused := ?_
      answered := ?_
      known_backward := ?_
      answer_first := ?_
      backward_flow := ?_ }
  · simpa using link.replies_once
  · intro other member
    exact link.refused (by simpa using member)
  · intro other otherId
    rw [← link.answered]
    simp
  · intro other content member
    rcases List.mem_append.mp member with old | new
    · exact link.known_backward old
    · cases List.mem_singleton.mp new
      exact known
  · apply List.pairwise_append.mpr
    refine ⟨link.answer_first, List.pairwise_singleton _ _, ?_⟩
    intro earlier _ later isLast otherId content source _ impossible
    cases (List.mem_singleton.mp isLast).symm.trans impossible
  · intro opening isOpening
    simpa using link.backward_flow isOpening

theorem deliverForward {id : Id} {chunk : Chunk} {destination : Nat}
    {rest : List (Letter Id Chunk)}
    (link : Link a b (.forward id (some chunk) :: rest) toA opened)
    (served : b.served destination = some id) :
    Link a (b.offer destination chunk) rest toA opened := by
  obtain ⟨own, isOwn, isDestination, isId⟩ := link.served_opening served
  refine
    { link with
      requests_once := ?_
      requested := fun member => link.requested (List.mem_cons_of_mem _ member)
      known_forward := fun member => link.known_forward (List.mem_cons_of_mem _ member)
      forward_flow := ?_ }
  · simpa using link.requests_once
  · intro opening isOpening
    have flow := link.forward_flow isOpening
    by_cases here : opening = own
    · subst here
      subst isDestination
      subst isId
      rw [forwards_cons_chunk] at flow
      simpa [Station.offer] using flow.deliver served
    · have otherDestination : opening.destination ≠ destination := fun same =>
        here (link.same_of_destination isOpening isOwn (same.trans isDestination.symm))
      have otherId : id ≠ opening.id := fun same =>
        here (link.same_of_id isOpening isOwn (same.symm.trans isId.symm))
      simpa [Station.offer, otherDestination,
        otherId] using flow

/-! ### Requests and their answers -/

theorem requests_apart {source : Nat} {rest : List (Letter Id Chunk)}
    (link : Link a b (.request source :: rest) toA opened) :
    source ∉ requests rest ∧ (requests rest).Nodup :=
  List.nodup_cons.mp link.requests_once

theorem not_requested_again {source : Nat} {rest : List (Letter Id Chunk)}
    (link : Link a b (.request source :: rest) toA opened) {other : Nat}
    (member : .request other ∈ rest) : other ≠ source := by
  rintro rfl
  exact link.requests_apart.1 (List.mem_filterMap.mpr ⟨_, member, rfl⟩)

omit [DecidableEq Id] in
theorem mem_replies {letters : List (Letter Id Chunk)} {source : Nat}
    (member : source ∈ replies letters) :
    .refusal source ∈ letters ∨ ∃ id, .answer source id ∈ letters := by
  obtain ⟨letter, isLetter, isReply⟩ := List.mem_filterMap.mp member
  cases letter with
  | request other => cases isReply
  | refusal other =>
      cases isReply
      exact Or.inl isLetter
  | answer other id =>
      cases isReply
      exact Or.inr ⟨id, isLetter⟩
  | forward id content => cases isReply
  | backward id content => cases isReply

theorem not_replied {source : Nat} (link : Link a b toB toA opened)
    (requested : a.stage source = .requested) : source ∉ replies toA := by
  intro member
  rcases mem_replies member with refused | ⟨id, answered⟩
  · cases requested.symm.trans (link.refused refused)
  · cases requested.symm.trans (link.answered.mp answered)

theorem replies_concat {source : Nat} (link : Link a b toB toA opened)
    (requested : a.stage source = .requested) : (replies toA ++ [source]).Nodup := by
  rw [← List.concat_eq_append]
  exact link.replies_once.concat (link.not_replied requested)

theorem refuse {source : Nat} {rest : List (Letter Id Chunk)}
    (link : Link a b (.request source :: rest) toA opened) :
    Link (a.setStage source .refused) b rest (toA ++ [.refusal source]) opened := by
  have requested := link.requested List.mem_cons_self
  have others : ∀ {other : Nat} {stage : Stage Id}, a.stage other = stage →
      Stage.requested ≠ stage → (a.setStage source .refused).stage other = stage :=
    fun known different => Station.setStage_of_ne known (requested ▸ different)
  refine
    { link with
      requests_once := ?_
      requested := ?_
      replies_once := ?_
      refused := ?_
      answered := ?_
      opening_stage := ?_
      stage_opening := ?_
      unread := ?_
      known_forward := fun member => link.known_forward (List.mem_cons_of_mem _ member)
      known_backward := ?_
      answer_first := ?_
      forward_flow := ?_
      backward_flow := ?_ }
  · exact link.requests_apart.2
  · intro other member
    exact (Function.update_of_ne (link.not_requested_again member) _ _).trans
      (link.requested (List.mem_cons_of_mem _ member))
  · simpa using link.replies_concat requested
  · intro other member
    rcases List.mem_append.mp member with old | new
    · exact others (link.refused old) (by simp)
    · cases List.mem_singleton.mp new
      exact Function.update_self ..
  · intro other id
    have answered := @link.answered other id
    rw [List.mem_append, List.mem_singleton]
    constructor
    · rintro (old | impossible)
      · exact others (answered.mp old) (by simp)
      · cases impossible
    · exact fun known => Or.inl (answered.mpr (Station.stage_of_setStage known (by simp)))
  · intro opening isOpening
    rcases link.opening_stage isOpening with answered | carrying | gone
    · exact Or.inl (others answered (by simp))
    · exact Or.inr (Or.inl (others carrying (by simp)))
    · exact Or.inr (Or.inr (others gone (by simp)))
  · exact fun stage => link.stage_opening (Station.live_of_setStage (by simp) (by simp) stage)
  · intro other stage
    by_cases here : other = source
    · subst here
      exact link.unread (Or.inl requested)
    · have same : (a.setStage source .refused).stage other = a.stage other :=
        Function.update_of_ne here _ _
      rw [same] at stage
      exact link.unread stage
  · intro id content member
    exact link.known_backward (by simpa using member)
  · apply List.pairwise_append.mpr
    refine ⟨link.answer_first, List.pairwise_singleton _ _, ?_⟩
    intro earlier _ later isLast id content other _ impossible
    cases (List.mem_singleton.mp isLast).symm.trans impossible
  · intro opening isOpening
    have flow := link.forward_flow isOpening
    simpa using flow
  · intro opening isOpening
    have flow := link.backward_flow isOpening
    simpa using
      flow.keep (Station.live_of_setStage (by simp) (by simp))

theorem assign {source : Nat} {id : Id} {rest : List (Letter Id Chunk)}
    (link : Link a b toB (.answer source id :: rest) opened) :
    Link (a.setStage source (.carrying id)) b toB rest opened := by
  have answered := link.answered.mp List.mem_cons_self
  have others : ∀ {other : Nat} {stage : Stage Id}, a.stage other = stage →
      Stage.answered id ≠ stage → (a.setStage source (.carrying id)).stage other = stage :=
    fun known different => Station.setStage_of_ne known (answered ▸ different)
  have replied : (source :: replies rest).Nodup := link.replies_once
  obtain ⟨once, restOnce⟩ := List.nodup_cons.mp replied
  have elsewhere : ∀ {other : Nat}, other ≠ source →
      (a.setStage source (.carrying id)).stage other = a.stage other :=
    fun different => Function.update_of_ne different _ _
  have here : (a.setStage source (.carrying id)).stage source = .carrying id :=
    Function.update_self ..
  refine
    { link with
      requested := fun member => others (link.requested member) (by simp)
      replies_once := ?_
      refused := fun member => others (link.refused (List.mem_cons_of_mem _ member)) (by simp)
      answered := ?_
      opening_stage := ?_
      stage_opening := ?_
      unread := ?_
      known_backward := fun member => link.known_backward (List.mem_cons_of_mem _ member)
      answer_first := (List.pairwise_cons.mp link.answer_first).2
      backward_flow := ?_ }
  · exact restOnce
  · intro other otherId
    by_cases same : other = source
    · subst same
      rw [here]
      constructor
      · intro member
        have again : other ∈ replies rest := List.mem_filterMap.mpr ⟨_, member, rfl⟩
        exact absurd again once
      · intro impossible
        cases impossible
    · rw [elsewhere same, ← link.answered, List.mem_cons]
      simp [same]
  · intro opening isOpening
    by_cases same : opening.source = source
    · obtain ⟨own, isOwn, isSource, isId⟩ := link.stage_opening (Or.inl answered)
      obtain rfl := link.same_of_source isOpening isOwn (same.trans isSource.symm)
      rw [same, here, isId]
      exact Or.inr (Or.inl rfl)
    · rw [elsewhere same]
      exact link.opening_stage isOpening
  · intro other otherId stage
    by_cases same : other = source
    · subst same
      rw [here] at stage
      rcases stage with impossible | carrying
      · cases impossible
      · cases carrying
        exact link.stage_opening (Or.inl answered)
    · rw [elsewhere same] at stage
      exact link.stage_opening stage
  · intro other stage
    rcases stage with requested | refused
    · exact link.unread (Or.inl (Station.stage_of_setStage requested (by simp)))
    · exact link.unread (Or.inr (Station.stage_of_setStage refused (by simp)))
  · intro opening isOpening
    have flow := link.backward_flow isOpening
    have kept : Flow ((a.setStage source (.carrying id)).stage opening.source =
          .answered opening.id ∨
        (a.setStage source (.carrying id)).stage opening.source = .carrying opening.id)
        (b.received opening.destination) (a.offered opening.source)
        (backwards opening.id (.answer source id :: rest)) := by
      apply flow.keep
      intro live
      by_cases same : opening.source = source
      · rw [same, here] at live
        rcases live with impossible | carrying
        · cases impossible
        · cases carrying
          exact Or.inl (same ▸ answered)
      · rwa [elsewhere same] at live
    simpa using kept

theorem discard {source : Nat} {rest : List (Letter Id Chunk)}
    (link : Link a b toB (.refusal source :: rest) opened) :
    Link (a.setStage source .gone) b toB rest opened := by
  have refused := link.refused List.mem_cons_self
  have replied : (source :: replies rest).Nodup := link.replies_once
  obtain ⟨unanswered, once⟩ := List.nodup_cons.mp replied
  have others : ∀ {other : Nat} {stage : Stage Id}, a.stage other = stage →
      Stage.refused ≠ stage → (a.setStage source .gone).stage other = stage :=
    fun known different => Station.setStage_of_ne known (refused ▸ different)
  refine
    { link with
      requested := fun member => others (link.requested member) (by simp)
      replies_once := once
      refused := ?_
      answered := ?_
      opening_stage := ?_
      stage_opening := ?_
      unread := ?_
      known_backward := fun member => link.known_backward (List.mem_cons_of_mem _ member)
      answer_first := (List.pairwise_cons.mp link.answer_first).2
      backward_flow := ?_ }
  · intro other member
    have different : other ≠ source := by
      rintro rfl
      exact unanswered (List.mem_filterMap.mpr ⟨_, member, rfl⟩)
    exact (Function.update_of_ne different _ _).trans
      (link.refused (List.mem_cons_of_mem _ member))
  · intro other otherId
    constructor
    · exact fun member =>
        others (link.answered.mp (List.mem_cons_of_mem _ member)) (by simp)
    · intro known
      have former := link.answered.mpr (Station.stage_of_setStage known (by simp))
      simpa using former
  · intro opening isOpening
    rcases link.opening_stage isOpening with answered | carrying | gone
    · exact Or.inl (others answered (by simp))
    · exact Or.inr (Or.inl (others carrying (by simp)))
    · exact Or.inr (Or.inr (others gone (by simp)))
  · exact fun stage => link.stage_opening (Station.live_of_setStage (by simp) (by simp) stage)
  · intro other stage
    rcases stage with requested | stillRefused
    · exact link.unread (Or.inl (Station.stage_of_setStage requested (by simp)))
    · exact link.unread (Or.inr (Station.stage_of_setStage stillRefused (by simp)))
  · intro opening isOpening
    have flow := link.backward_flow isOpening
    simpa using
      flow.keep (Station.live_of_setStage (by simp) (by simp))

theorem forwards_of_unknown {letters : List (Letter Id Chunk)} {id : Id}
    (unknown : ∀ content, .forward id content ∉ letters) : forwards id letters = [] := by
  apply List.filterMap_eq_nil_iff.mpr
  intro letter member
  cases letter with
  | request source => rfl
  | refusal source => rfl
  | answer source other => rfl
  | forward other content =>
      have different : other ≠ id := by
        rintro rfl
        exact unknown content member
      exact if_neg different
  | backward other content => rfl

theorem backwards_of_unknown {letters : List (Letter Id Chunk)} {id : Id}
    (unknown : ∀ content, .backward id content ∉ letters) : backwards id letters = [] := by
  apply List.filterMap_eq_nil_iff.mpr
  intro letter member
  cases letter with
  | request source => rfl
  | refusal source => rfl
  | answer source other => rfl
  | forward other content => rfl
  | backward other content =>
      have different : other ≠ id := by
        rintro rfl
        exact unknown content member
      exact if_neg different

omit [DecidableEq Id] in
theorem nodup_map_concat {α : Type} {key : Opening Id → α} {opening : Opening Id}
    (former : (opened.map key).Nodup) (different : ∀ other ∈ opened, key other ≠ key opening) :
    ((opened ++ [opening]).map key).Nodup := by
  rw [List.map_append, List.map_singleton, ← List.concat_eq_append]
  apply former.concat
  intro member
  obtain ⟨other, isOpening, same⟩ := List.mem_map.mp member
  exact different other isOpening same

/-- The connection that is made for a request starts with nothing received, offered or
under way. -/
theorem connect {source : Nat} {id : Id} {rest : List (Letter Id Chunk)}
    (link : Link a b (.request source :: rest) toA opened) (fresh : b.Fresh)
    (unused : ∀ opening ∈ opened, opening.id ≠ id) :
    Link (a.setStage source (.answered id)) (b.connect id) rest (toA ++ [.answer source id])
      (opened ++ [{ source := source, destination := b.count, id := id }]) := by
  have requested := link.requested List.mem_cons_self
  have others : ∀ {other : Nat} {stage : Stage Id}, a.stage other = stage →
      Stage.requested ≠ stage → (a.setStage source (.answered id)).stage other = stage :=
    fun known different => Station.setStage_of_ne known (requested ▸ different)
  have elsewhere : ∀ {other : Nat}, other ≠ source →
      (a.setStage source (.answered id)).stage other = a.stage other :=
    fun different => Function.update_of_ne different _ _
  have here : (a.setStage source (.answered id)).stage source = .answered id :=
    Function.update_self ..
  have otherSource : ∀ opening ∈ opened, opening.source ≠ source := by
    rintro opening isOpening rfl
    rcases link.opening_stage isOpening with answered | carrying | gone
    · cases requested.symm.trans answered
    · cases requested.symm.trans carrying
    · cases requested.symm.trans gone
  have otherDestination : ∀ opening ∈ opened, opening.destination ≠ b.count :=
    fun opening isOpening => Nat.ne_of_lt (link.destination isOpening).1
  have cases : ∀ {opening : Opening Id},
      opening ∈ opened ++ [{ source := source, destination := b.count, id := id }] →
        opening ∈ opened ∨ opening = { source := source, destination := b.count, id := id } := by
    intro opening member
    simpa using member
  have unknownForward : ∀ content, .forward id content ∉ rest := by
    intro content member
    obtain ⟨opening, isOpening, isId⟩ := link.known_forward (List.mem_cons_of_mem _ member)
    exact unused opening isOpening isId
  have unknownBackward : ∀ content, .backward id content ∉ toA := by
    intro content member
    obtain ⟨opening, isOpening, isId⟩ := link.known_backward member
    exact unused opening isOpening isId
  constructor
  · exact link.requests_apart.2
  · intro other member
    rw [elsewhere (link.not_requested_again member)]
    exact link.requested (List.mem_cons_of_mem _ member)
  · simpa using link.replies_concat requested
  · intro other member
    have old : .refusal other ∈ toA := by simpa using member
    exact others (link.refused old) (by simp)
  · intro other otherId
    rw [List.mem_append, List.mem_singleton, link.answered]
    by_cases same : other = source
    · subst same
      rw [here, requested]
      simp [eq_comm]
    · rw [elsewhere same]
      simp [same]
  · exact nodup_map_concat link.ids_once unused
  · exact nodup_map_concat link.sources_once otherSource
  · exact nodup_map_concat link.destinations_once otherDestination
  · intro opening isOpening
    rcases cases isOpening with old | rfl
    · rw [elsewhere (otherSource opening old)]
      exact link.opening_stage old
    · exact Or.inl here
  · intro other otherId stage
    by_cases same : other = source
    · subst same
      rw [here] at stage
      rcases stage with answered | impossible
      · cases answered
        exact ⟨_, List.mem_append_right _ List.mem_cons_self, rfl, rfl⟩
      · cases impossible
    · rw [elsewhere same] at stage
      obtain ⟨opening, isOpening, isSource, isId⟩ := link.stage_opening stage
      exact ⟨opening, List.mem_append_left _ isOpening, isSource, isId⟩
  · intro destination otherId served
    by_cases same : destination = b.count
    · subst same
      have new : (b.connect id).served b.count = some id := Function.update_self ..
      cases new.symm.trans served
      exact ⟨_, List.mem_append_right _ List.mem_cons_self, rfl, rfl⟩
    · have old : b.served destination = some otherId :=
        (Function.update_of_ne same _ _).symm.trans served
      obtain ⟨opening, isOpening, isDestination, isId⟩ := link.served_opening old
      exact ⟨opening, List.mem_append_left _ isOpening, isDestination, isId⟩
  · intro opening isOpening
    rcases cases isOpening with old | rfl
    · obtain ⟨known, absent⟩ := link.destination old
      exact ⟨Nat.lt_succ_of_lt known, absent⟩
    · exact ⟨Nat.lt_succ_self _, fresh.stage (Nat.le_refl _)⟩
  · intro other stage
    rcases stage with stillRequested | refused
    · exact link.unread (Or.inl (Station.stage_of_setStage stillRequested (by simp)))
    · exact link.unread (Or.inr (Station.stage_of_setStage refused (by simp)))
  · intro otherId content member
    obtain ⟨opening, isOpening, isId⟩ := link.known_forward (List.mem_cons_of_mem _ member)
    exact ⟨opening, List.mem_append_left _ isOpening, isId⟩
  · intro otherId content member
    have old : .backward otherId content ∈ toA := by simpa using member
    obtain ⟨opening, isOpening, isId⟩ := link.known_backward old
    exact ⟨opening, List.mem_append_left _ isOpening, isId⟩
  · apply List.pairwise_append.mpr
    refine ⟨link.answer_first, List.pairwise_singleton _ _, ?_⟩
    rintro earlier isEarlier later isLast otherId content other rfl answers
    cases (List.mem_singleton.mp isLast).symm.trans answers
    exact unknownBackward content isEarlier
  · intro opening isOpening
    rcases cases isOpening with old | rfl
    · have flow := link.forward_flow old
      have same : (b.connect id).served opening.destination = b.served opening.destination :=
        Function.update_of_ne (otherDestination opening old) _ _
      rw [same]
      simpa [Station.connect] using flow
    · have received := (link.unread (Or.inl requested)).1
      have offered := fresh.offered (Nat.le_refl _)
      dsimp only [Station.connect]
      rw [Station.setStage_received, received, offered, forwards_of_unknown unknownForward]
      exact Flow.empty _
  · intro opening isOpening
    rcases cases isOpening with old | rfl
    · have flow := link.backward_flow old
      rw [elsewhere (otherSource opening old)]
      simpa [Station.connect] using flow
    · have received := fresh.received (Nat.le_refl _)
      have offered := (link.unread (Or.inl requested)).2
      have pending : backwards id (toA ++ [.answer source id]) = [] := by
        rw [backwards, List.filterMap_append, ← backwards, backwards_of_unknown unknownBackward]
        rfl
      dsimp only [Station.connect]
      rw [Station.setStage_offered, received, offered, pending]
      exact Flow.empty _

end Link

end EternalTerminal.Library.Multiplexer
