import RolloutWatch.Watcher.Reader

/-!
# What readers can do to a watcher

A reader changes the gate's records of its readers or one mailbox, and nothing
else. A mailbox that a reader leaves open holds and has given all that it took
before. One that it closes or drops keeps what was read from it.
-/

namespace RolloutWatch

namespace Mailbox

/-- How a mailbox may look after its reader did something with it. -/
structure Later (old new : Mailbox) : Prop where
  listening : new.isListening = true → old.isListening = true
  taken : new.isListening = true → new.taken = old.taken
  kept : new.taken <+: old.taken

namespace Later

theorem refl (box : Mailbox) : Later box box :=
  ⟨id, fun _ => rfl, List.prefix_rfl⟩

/-- A reading end that is left as it is gives what the mailbox holds, in order. -/
theorem of_taken {old new : Mailbox} (same : new.readingEnd = old.readingEnd)
    (taken : new.taken = old.taken) : Later old new where
  listening open_ := by simpa only [isListening, same] using open_
  taken _ := taken
  kept := taken ▸ List.prefix_rfl

theorem receive (box : Mailbox) (attached : Bool) : Later box (box.receive attached).1 :=
  of_taken (readingEnd_receive box attached) (taken_receive box attached)

theorem drain (box : Mailbox) (attached : Bool) : Later box (box.drain attached).1 :=
  of_taken (readingEnd_drain box attached) (taken_drain box attached)

theorem closeReading (box : Mailbox) : Later box box.closeReading := by
  have deaf : ¬box.closeReading.isListening = true := by
    unfold Mailbox.closeReading isListening
    split <;> simp_all
  have same := taken_closeReading box
  refine ⟨?_, ?_, same ▸ List.prefix_rfl⟩
  · intro listening
    exact absurd listening deaf
  · intro listening
    exact absurd listening deaf

theorem dropReading (box : Mailbox) : Later box box.dropReading := by
  refine ⟨?_, ?_, ?_⟩
  · intro listening
    cases listening
  · intro listening
    cases listening
  · rw [taken_dropReading]
    exact List.prefix_append box.read box.held

end Later

end Mailbox

/-- What a listener reads in one action of a reader. -/
def ReaderAction.readings (listener : Nat) : ReaderAction → ReaderAnswer → List Snapshot
  | .receive reader, .received (.ok snapshot) => if reader = listener then [snapshot] else []
  | .drain reader, .drained snapshots _ => if reader = listener then snapshots else []
  | _, _ => []

namespace Watcher

theorem isListening_eq (w : Watcher) (listener : Nat) :
    w.isListening listener = (w.mailbox listener).isListening := by
  unfold isListening mailbox
  cases w.mailboxes[listener]? <;> rfl

theorem mailbox_of_getElem? {w : Watcher} {listener : Nat} {box : Mailbox}
    (present : w.mailboxes[listener]? = some box) : w.mailbox listener = box := by
  rw [mailbox, present]
  rfl

/-- A listener that nobody registered has a lost mailbox. -/
theorem mailbox_of_le {w : Watcher} {listener : Nat} (absent : w.mailboxes.length ≤ listener) :
    w.mailbox listener = { readingEnd := .dropped } := by
  rw [mailbox, List.getElem?_eq_none absent]
  rfl

theorem mailbox_setMailbox_of_ne {w : Watcher} {listener other : Nat} {box : Mailbox}
    (ne : other ≠ listener) : (w.setMailbox listener box).mailbox other = w.mailbox other := by
  rw [mailbox, setMailbox, List.getElem?_set_ne ne.symm, mailbox]

theorem mailbox_setMailbox {w : Watcher} {listener : Nat} {box : Mailbox}
    (present : listener < w.mailboxes.length) :
    (w.setMailbox listener box).mailbox listener = box := by
  rw [mailbox, setMailbox, List.getElem?_set_self present]
  rfl

/-- If a mailbox goes with the one that is put in its place, every mailbox goes with the one that is
there then. -/
theorem related_setMailbox {R : Mailbox → Mailbox → Prop} (refl : ∀ box, R box box) {w : Watcher}
    {reader : Nat} {box : Mailbox} (changed : R (w.mailbox reader) box) (listener : Nat) :
    R (w.mailbox listener) ((w.setMailbox reader box).mailbox listener) := by
  by_cases here : listener = reader
  · subst here
    by_cases present : listener < w.mailboxes.length
    · rwa [mailbox_setMailbox present]
    · have unchanged : w.setMailbox listener box = w := by
        rw [setMailbox, List.set_eq_of_length_le (Nat.le_of_not_lt present)]
      rw [unchanged]
      exact refl _
  · rw [mailbox_setMailbox_of_ne here]
    exact refl _

/-- Readers touch mailboxes and the gate. -/
theorem serve_frame (w : Watcher) (action : ReaderAction) :
    ∃ mailboxes gate, (w.serve action).1 = { w with mailboxes, gate } ∧
      mailboxes.length = w.mailboxes.length := by
  cases action with
  | receive | drain | closeReading | dropReading =>
      exact ⟨_, w.gate, rfl, List.length_set⟩
  | isDone | cloneHandle | wait | startWait | pollWait =>
      exact ⟨w.mailboxes, _, rfl, rfl⟩

/-- A mailbox that is put in the place of a listener's bears on that listener alone. A lost
mailbox stays lost. -/
theorem mailbox_setMailbox_later {w : Watcher} {reader : Nat} {box : Mailbox}
    (listener : Nat) (got : List Snapshot) (later : Mailbox.Later (w.mailbox reader) box)
    (read : box.read = (w.mailbox reader).read ++ got)
    (lost : w.mailboxes.length ≤ reader → got = []) :
    Mailbox.Later (w.mailbox listener) ((w.setMailbox reader box).mailbox listener) ∧
      ((w.setMailbox reader box).mailbox listener).read =
        (w.mailbox listener).read ++ if reader = listener then got else [] := by
  by_cases same : reader = listener
  · subst same
    rw [if_pos rfl]
    by_cases present : reader < w.mailboxes.length
    · rw [mailbox_setMailbox present]
      exact ⟨later, read⟩
    · have absent := Nat.le_of_not_lt present
      have unchanged : (w.setMailbox reader box).mailbox reader = w.mailbox reader := by
        rw [mailbox_of_le absent, mailbox_of_le (by simpa [setMailbox] using absent)]
      rw [unchanged, lost absent, List.append_nil]
      exact ⟨.refl _, rfl⟩
  · rw [mailbox_setMailbox_of_ne (Ne.symm same), if_neg same, List.append_nil]
    exact ⟨.refl _, rfl⟩

/-- What an action of a reader does to the mailbox of each listener. -/
theorem mailbox_serve (w : Watcher) (action : ReaderAction) (listener : Nat) :
    Mailbox.Later (w.mailbox listener) ((w.serve action).1.mailbox listener) ∧
      ((w.serve action).1.mailbox listener).read =
        (w.mailbox listener).read ++ action.readings listener (w.serve action).2 := by
  cases action with
  | receive reader =>
      have later := Mailbox.Later.receive (w.mailbox reader) (w.isRegistered reader)
      cases held : (w.mailbox reader).held with
      | nil =>
          simpa [serve, Mailbox.receive, held, ReaderAction.readings] using
            mailbox_setMailbox_later listener [] later
              (by simp [Mailbox.receive, held]) fun _ => rfl
      | cons snapshot rest =>
          have found : ¬w.mailboxes.length ≤ reader := by
            intro absent
            rw [mailbox_of_le absent] at held
            cases held
          simpa [serve, Mailbox.receive, held, ReaderAction.readings] using
            mailbox_setMailbox_later listener [snapshot] later
              (by simp [Mailbox.receive, held]) fun absent => absurd absent found
  | drain reader =>
      have later := Mailbox.Later.drain (w.mailbox reader) (w.isRegistered reader)
      exact mailbox_setMailbox_later listener _ later rfl fun absent => by rw [mailbox_of_le absent]
  | closeReading reader =>
      have read : (w.mailbox reader).closeReading.read = (w.mailbox reader).read := by
        unfold Mailbox.closeReading
        split <;> rfl
      simpa [ReaderAction.readings, serve] using
        mailbox_setMailbox_later listener [] (.closeReading _) (by simpa using read) fun _ => rfl
  | dropReading reader =>
      simpa [ReaderAction.readings, serve] using
        mailbox_setMailbox_later listener [] (.dropReading _) (by simp [Mailbox.dropReading])
          fun _ => rfl
  | isDone | cloneHandle | wait | startWait | pollWait =>
      exact ⟨.refl _, (List.append_nil _).symm⟩

/-- Nobody who does not listen is made to listen again. -/
theorem isListening_of_serve (w : Watcher) (action : ReaderAction) {listener : Nat}
    (listening : (w.serve action).1.isListening listener = true) :
    w.isListening listener = true := by
  rw [isListening_eq] at listening ⊢
  exact (w.mailbox_serve action listener).1.listening listening

end Watcher

end RolloutWatch
