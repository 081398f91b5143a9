import ScreenKeyboard.Proofs.Fields

/-!
Refused requests. The layout and the number of bound fields decide which requests are refused (`Request.refusal?`);
a refused request leaves the session as it is and nothing is noticed of it. So the requests that are refused in a run
can be left out of it, and all that came of the others stays the same (`refusals_along_run`).
-/

namespace ScreenKeyboard

/-- Of an index, that the key there carries a label and no key before it does. -/
structure Layout.FirstWith (layout : Layout) (label : String) (index : Nat) : Prop where
  carries : ∃ key, layout.key? index = some key ∧ key.label = label
  first : ∀ earlier < index, ∀ key, layout.key? earlier = some key → key.label ≠ label

theorem Layout.indexOf?_eq_none_iff {layout : Layout} {label : String} :
    layout.indexOf? label = none ↔ ¬∃ key ∈ layout.keys, key.label = label := by
  rw [indexOf?, List.findIdx?_eq_none_iff]
  simp

theorem Layout.firstWith_of_indexOf? {layout : Layout} {label : String} {index : Nat}
    (h : layout.indexOf? label = some index) : layout.FirstWith label index := by
  obtain ⟨hlt, hlabel, hearlier⟩ := List.findIdx?_eq_some_iff_getElem.mp h
  refine ⟨⟨layout.keys[index], List.getElem?_eq_getElem hlt, of_decide_eq_true hlabel⟩, ?_⟩
  intro earlier hlater key hkey hcarries
  obtain ⟨hbound, rfl⟩ := List.getElem?_eq_some_iff.mp hkey
  exact hearlier earlier hlater (decide_eq_true hcarries)

namespace Keyboard

/-- The refusal that a request meets, going by the layout and by how many fields are bound. -/
def Request.refusal? (layout : Layout) (fields : Nat) : Request → Option Refusal
  | .press index => if index < layout.size then none else some (.noSuchKey index)
  | .pressLabel label => if ∃ key ∈ layout.keys, key.label = label then none else some (.noSuchLabel label)
  | .focus id => if id < fields then none else some (.noSuchField id)
  | _ => none

namespace Exchange

/-- The refusal that was the answer, if it was one. -/
def refusal? (exchange : Exchange) : Option Refusal :=
  match exchange.answer with
  | .pressed (.error refusal) => some refusal
  | .refused refusal => some refusal
  | _ => none

def isGranted (exchange : Exchange) : Bool :=
  exchange.refusal?.isNone

end Exchange

theorem Request.flatMap_singles {requests : List Request} (h : ∀ request ∈ requests, request.isSingle = true) :
    requests.flatMap singles = requests := by
  induction requests with
  | nil => rfl
  | cons request rest ih =>
      have hsingle : request.singles = [request] := by
        cases request with
        | type labels => exact absurd (h _ List.mem_cons_self) Bool.false_ne_true
        | _ => rfl
      rw [List.flatMap_cons, hsingle, ih fun later hlater => h later (List.mem_cons_of_mem _ hlater)]
      rfl

namespace Exchange

/-- An exchange in which what had to be refused was refused, and nothing else came of it then. -/
structure Judged (exchange : Exchange) : Prop where
  refusal?_eq : exchange.refusal? =
    exchange.request.refusal? exchange.before.keyboard.layout exchange.before.keyboard.bound.length
  still : exchange.isGranted = false → exchange.after = exchange.before ∧ exchange.notices = []

theorem Judged.of_granted {exchange : Exchange} (hanswer : exchange.refusal? = none)
    (hcalled : exchange.request.refusal? exchange.before.keyboard.layout exchange.before.keyboard.bound.length = none) :
    exchange.Judged where
  refusal?_eq := hanswer.trans hcalled.symm
  still := by
    intro hrefused
    rw [isGranted, hanswer] at hrefused
    cases hrefused

end Exchange

namespace Session

/-! ### One request -/

theorem judged_of_still {session : Session} {request : Request} {answer : Answer}
    (hstep : session.step request = (answer, session, []))
    (hanswer : (session.exchange request).refusal? =
      request.refusal? session.keyboard.layout session.keyboard.bound.length) :
    (session.exchange request).Judged where
  refusal?_eq := hanswer
  still := fun _ => Prod.mk.inj (congrArg Prod.snd hstep)

theorem answer_press_of_lt {session : Session} {index : Nat} (h : index < session.keyboard.layout.size) :
    ∃ outcome, (session.exchange (.press index)).answer = .pressed (.ok outcome) := by
  have found : session.keyboard.layout.key? index = some session.keyboard.layout.keys[index] :=
    List.getElem?_eq_getElem h
  refine ⟨(session.keyboard.actuate index session.keyboard.layout.keys[index]).1, ?_⟩
  rw [exchange, step, press_found found]
  rfl

theorem judged_press (session : Session) (index : Nat) : (session.exchange (.press index)).Judged := by
  by_cases hindex : index < session.keyboard.layout.size
  · obtain ⟨outcome, hanswer⟩ := answer_press_of_lt hindex
    exact .of_granted (by rw [Exchange.refusal?, hanswer]) (if_pos hindex)
  · have hstep : session.step (.press index) = (.pressed (.error (.noSuchKey index)), session, []) := by
      rw [step, press_missing (List.getElem?_eq_none_iff.mpr (Nat.not_lt.mp hindex))]
      rfl
    refine judged_of_still hstep ?_
    rw [Exchange.refusal?, exchange, hstep, Request.refusal?, if_neg hindex]

/-- A label that the layout has stands for the first key that carries it, whatever the keys show. -/
theorem step_pressLabel {session : Session} {label : String}
    (h : ∃ key ∈ session.keyboard.layout.keys, key.label = label) :
    ∃ index, session.keyboard.layout.FirstWith label index ∧
      session.step (.pressLabel label) = session.step (.press index) := by
  cases found : session.keyboard.layout.indexOf? label with
  | none => exact absurd h (Layout.indexOf?_eq_none_iff.mp found)
  | some index =>
      refine ⟨index, Layout.firstWith_of_indexOf? found, ?_⟩
      rw [step, step, Keyboard.pressLabel, found]

theorem judged_pressLabel (session : Session) (label : String) : (session.exchange (.pressLabel label)).Judged := by
  by_cases hlabel : ∃ key ∈ session.keyboard.layout.keys, key.label = label
  · obtain ⟨index, ⟨⟨key, found, -⟩, -⟩, hstep⟩ := step_pressLabel hlabel
    obtain ⟨outcome, hanswer⟩ := answer_press_of_lt (List.getElem?_eq_some_iff.mp found).1
    have hsame : (session.exchange (.pressLabel label)).answer = .pressed (.ok outcome) :=
      (congrArg Prod.fst hstep).trans hanswer
    exact .of_granted (by rw [Exchange.refusal?, hsame]) (if_pos hlabel)
  · have hstep : session.step (.pressLabel label) = (.pressed (.error (.noSuchLabel label)), session, []) := by
      rw [step, Keyboard.pressLabel, Layout.indexOf?_eq_none_iff.mpr hlabel]
      rfl
    refine judged_of_still hstep ?_
    rw [Exchange.refusal?, exchange, hstep, Request.refusal?, if_neg hlabel]

theorem judged_focus (session : Session) (id : Nat) : (session.exchange (.focus id)).Judged := by
  by_cases hid : id < session.keyboard.bound.length
  · have hstep := step_focus_bound (List.getElem?_eq_getElem hid)
    exact .of_granted (by rw [Exchange.refusal?, exchange, hstep]) (if_pos hid)
  · have hstep := step_focus_unbound (List.getElem?_eq_none_iff.mpr (Nat.not_lt.mp hid))
    refine judged_of_still hstep ?_
    rw [Exchange.refusal?, exchange, hstep, Request.refusal?, if_neg hid]

theorem judged_exchange (session : Session) (request : Request) : (session.exchange request).Judged := by
  cases request with
  | press index => exact session.judged_press index
  | pressLabel label => exact session.judged_pressLabel label
  | focus id => exact session.judged_focus id
  | rebind name =>
      refine .of_granted ?_ rfl
      rw [Exchange.refusal?, exchange, step]
      cases session.slotOf? name <;> rfl
  | edit name text =>
      refine .of_granted ?_ rfl
      rw [Exchange.refusal?, exchange, step]
      cases session.slotOf? name <;> rfl
  | _ => exact .of_granted rfl rfl

/-! ### Runs -/

/-- Exchanges that leave the session as it was can be left out, and what came of the others stays the same. -/
theorem exchanges_filter {keep : Exchange → Bool} (session : Session) (requests : List Request)
    (still : ∀ exchange ∈ session.exchanges requests, keep exchange = false → exchange.after = exchange.before) :
    let kept := (session.exchanges requests).filter keep
    session.exchanges (kept.map Exchange.request) = kept ∧
      session.after (kept.map Exchange.request) = session.after requests := by
  induction requests generalizing session with
  | nil => exact ⟨rfl, rfl⟩
  | cons request rest ih =>
      obtain ⟨hexchanges, hafter⟩ := ih (session.exchange request).after fun exchange hmem =>
        still exchange (List.mem_cons_of_mem _ hmem)
      rw [exchanges]
      cases hkeep : keep (session.exchange request) with
      | true =>
          rw [List.filter_cons_of_pos hkeep]
          exact ⟨congrArg (session.exchange request :: ·) hexchanges, hafter⟩
      | false =>
          have hstill : (session.exchange request).after = session := still _ List.mem_cons_self hkeep
          rw [List.filter_cons_of_neg (by simp [hkeep]), after]
          rw [hstill] at hexchanges hafter ⊢
          exact ⟨hexchanges, hafter⟩

theorem history_filter {keep : Exchange → Bool} (session : Session) (requests : List Request)
    (still : ∀ exchange ∈ session.history requests, keep exchange = false → exchange.after = exchange.before) :
    let kept := (session.history requests).filter keep
    session.history (kept.map Exchange.request) = kept ∧
      session.after (kept.map Exchange.request) = session.after requests := by
  intro kept
  have hsingle : (kept.map Exchange.request).flatMap Request.singles = kept.map Exchange.request := by
    refine Request.flatMap_singles fun request hrequest => ?_
    obtain ⟨exchange, hkept, rfl⟩ := List.mem_map.mp hrequest
    obtain ⟨before, request, single, rfl⟩ := exists_of_mem_history (List.mem_filter.mp hkept).1
    exact single
  rw [history, hsingle, ← after_singles session requests]
  exact exchanges_filter session (requests.flatMap Request.singles) still

/-- A run keeps the layout, and binds as many fields as it gave ids. -/
theorem bound_after (layout : Layout) (forgetful : Bool) (requests : List Request) :
    let session := (start layout forgetful).1
    (session.after requests).keyboard.layout = layout ∧
      (session.after requests).keyboard.bound.length =
        ((session.history requests).flatMap Exchange.ids).length := by
  intro session
  obtain ⟨htended, hkept⟩ := history_induction
    (P := fun past session => Tended layout forgetful past session.keyboard ∧ Kept forgetful past session)
    ⟨tended_start layout forgetful, kept_start layout forgetful⟩
    (fun past session request single h =>
      ⟨tended_exchange past session request single h.1,
        kept_exchange past session request single h.1.forgetful_eq h.2⟩)
    requests
  exact ⟨htended.layout_eq, by rw [hkept.ids_eq, List.length_range]; rfl⟩

/-- After every run, a request is refused exactly if it names a key that the layout lacks, a label that no key
carries or a field that was not bound. A label stands for the first key that carries it. A refused request leaves
everything as it is and is noticed by nobody; so without the requests that were refused, the others are met,
answered and noticed as they were, and the run ends in the same way. -/
theorem refusals_along_run (layout : Layout) (forgetful : Bool) (requests : List Request) :
    let session := (start layout forgetful).1
    let history := session.history requests
    let last := session.after requests
    let granted := history.filter Exchange.isGranted
    (∀ request, (last.exchange request).refusal? =
      request.refusal? layout (history.flatMap Exchange.ids).length) ∧
    (∀ index < layout.size, ∃ outcome, (last.exchange (.press index)).answer = .pressed (.ok outcome)) ∧
    (∀ label, (∃ key ∈ layout.keys, key.label = label) →
      ∃ index, layout.FirstWith label index ∧ last.step (.pressLabel label) = last.step (.press index)) ∧
    (∀ request, (last.exchange request).isGranted = false →
      (last.exchange request).after = last ∧ (last.exchange request).notices = []) ∧
    session.history (granted.map Exchange.request) = granted ∧
    session.after (granted.map Exchange.request) = last := by
  intro session history last granted
  obtain ⟨hlayout, hbound⟩ := bound_after layout forgetful requests
  refine ⟨?_, ?_, ?_, fun request => (judged_exchange last request).still, ?_⟩
  · intro request
    rw [(judged_exchange last request).refusal?_eq, ← hlayout, ← hbound]
    rfl
  · intro index hindex
    exact answer_press_of_lt (hlayout ▸ hindex)
  · intro label hlabel
    rw [← hlayout] at hlabel ⊢
    exact step_pressLabel hlabel
  · refine history_filter session requests fun exchange hmem hrefused => ?_
    obtain ⟨before, request, -, rfl⟩ := exists_of_mem_history hmem
    exact ((judged_exchange before request).still hrefused).1

end Session

end Keyboard

end ScreenKeyboard
