import AsmWt.Interleaving
import AsmWt.PendingCalls
import AsmWt.ClockProcess

/-!
# The life of a task document

Pages on any number of devices hold models decoded at some earlier moment. The
buttons are gated by the status in the page's model; the write that follows a
press lands at any later moment and is not conditioned on what is stored then.
A controller deletes or skips the task at any time.
-/

namespace TaskLifecycle

open KeyedRecord Firestore TasksModel UserProfile ClockProcess Interleaving PendingCalls

/-- A clock write in flight, with the operation its data was built by. -/
structure ClockWrite where
  kind : ClockEvent
  model : TaskModel
  confirmation : Confirmation
  data : Payload
  data_eq : clockData kind model confirmation = some data

inductive Call where
  | accept (userModel : Option UserModel)
  | clock (w : ClockWrite)
  | delete

/-- `sheets` are the confirmation sheets a clock button has opened for a page. -/
structure State where
  doc : Option Doc
  pages : List TaskModel := []
  sheets : List (Nat × ClockEvent) := []
  calls : List Call := []

inductive Event where
  | read
  | onAcceptPressed (page : Nat) (userModel : Option UserModel)
  | onClockPressed (page : Nat) (kind : ClockEvent)
  | clockProcess (sheet : Nat) (c : Confirmation)
  | deleteTaskNotedById (page : Nat)
  | reply (call : Nat) (ok : Bool)
  | controllerSets (status : String)

/-- What a call that reaches the store does there; `update` fails on a missing document. -/
def land (doc : Option Doc) : Call → Option Doc
  | .accept userModel => doc.map fun d => update d (acceptData userModel)
  | .clock w => doc.map fun d => update d w.data
  | .delete => none

/-- The operation on a page's model, with its data when the null check passes. -/
def clockWrite (kind : ClockEvent) (m : TaskModel) (c : Confirmation) : Option ClockWrite :=
  match h : clockData kind m c with
  | none => none
  | some data => some ⟨kind, m, c, data, h⟩

def step (taskId : String) (s : State) : Event → Option State
  | .read => do
    let d ← s.doc
    let m ← fromDocumentSnapshot taskId d
    return { s with pages := s.pages ++ [m] }
  | .onAcceptPressed page userModel => do
    let m ← s.pages[page]?
    if m.status = some TaskStatus.new then
      return { s with calls := .accept userModel :: s.calls }
    else none
  | .onClockPressed page kind => do
    let m ← s.pages[page]?
    if m.status = some (sourceStatus kind) then
      return { s with sheets := s.sheets ++ [(page, kind)] }
    else none
  | .clockProcess sheet c => do
    let (page, kind) ← s.sheets[sheet]?
    let m ← s.pages[page]?
    let m' ← clockModel kind m c
    let w ← clockWrite kind m c
    -- the page keeps the model the process has filled in, also when the write fails
    return { s with pages := s.pages.set page m', calls := .clock w :: s.calls }
  | .deleteTaskNotedById page => do
    let m ← s.pages[page]?
    if m.type = some TaskStatus.request then
      return { s with calls := .delete :: s.calls }
    else none
  | .reply call ok => do
    let (c, rest) ← takeOut s.calls call
    return { s with doc := if ok then land s.doc c else s.doc, calls := rest }
  | .controllerSets status =>
    if status = TaskStatus.delete ∨ status = TaskStatus.skip then
      some { s with doc := s.doc.map fun d => update d [("status", .str status)] }
    else none

/-- The stored status fits the call that is about to land: for the writes it is the status
their button was offered for or already their own, for a delete neither started nor done. -/
def Fits (status : Value) : Call → Prop
  | .accept _ => status = .str TaskStatus.new ∨ status = .str TaskStatus.confirm
  | .clock w => status = .str (sourceStatus w.kind) ∨ status = .str (targetStatus w.kind)
  | .delete => status ≠ .str TaskStatus.start ∧ status ≠ .str TaskStatus.done

end TaskLifecycle
