import Rebalance.Proofs.Run.Act
import Rebalance.Run.World

/-!
# What actions on a world leave behind

* `World.tell`: the world after some log records; every action that only logs is one of these.
* `World.Sight`: a world as it looks when its log is read for changes of stage only.  Records that
  are no change of stage (`Quiet`) leave no trace in it (`sight_tell`).
-/

namespace Rebalance

/-! ## Records -/

/-- The words that a record of a change of stage begins with. -/
def Log.moveWords : List Char :=
  ['P', 'l', 'a', 'n', ' ', 'c', 'o', 'm', 'm', 'a', 'n', 'd', ':', ' ']

/-- Whether a record tells of a change of stage. -/
def Log.Record.isMove (r : Log.Record) : Bool :=
  r.severity == .debug && Log.moveWords.isPrefixOf r.text.toList

/-- Whether no record of a list tells of a change of stage. -/
def Log.Quiet (rs : List Log.Record) : Prop :=
  ∀ r ∈ rs, r.isMove = false

namespace Log

/-- Only records of the lowest severity tell of a change of stage. -/
theorem isMove_of_severity
    {s : Severity}
    (text : String)
    (h : s ≠ .debug) :
    Record.isMove ⟨s, text⟩ = false := by
  simp [Record.isMove, h]

/-- A text that begins in another way tells of no change of stage. -/
theorem isMove_of_word
    (s : Severity)
    (word text : String)
    (h : ∀ rest, moveWords.isPrefixOf (word.toList ++ rest) = false) :
    Record.isMove ⟨s, word ++ text⟩ = false := by
  simp only [Record.isMove, String.toList_append, h, Bool.and_false]

theorem quiet_nil : Quiet [] := by
  intro r hr
  cases hr

theorem quiet_cons
    {r : Record}
    {rs : List Record}
    (h : r.isMove = false)
    (hs : Quiet rs) :
    Quiet (r :: rs) := by
  intro x hx
  rcases List.mem_cons.mp hx with rfl | hx
  · exact h
  · exact hs x hx

theorem quiet_append
    {rs ts : List Record}
    (h : Quiet rs)
    (g : Quiet ts) :
    Quiet (rs ++ ts) := by
  intro x hx
  rcases List.mem_append.mp hx with hx | hx
  · exact h x hx
  · exact g x hx

theorem filter_isMove_of_quiet
    {rs : List Record}
    (h : Quiet rs) :
    rs.filter Record.isMove = [] := by
  rw [List.filter_eq_nil_iff]
  intro r hr
  simp [h r hr]

end Log

/-! ## Worlds -/

namespace World

/-- The world after some log records. -/
def tell (w : World) (rs : List Log.Record) : World :=
  { w with events := w.events ++ rs.map .logged }

@[simp] theorem tell_files
    (w : World)
    (rs : List Log.Record) :
    (w.tell rs).files = w.files :=
  rfl

@[simp] theorem tell_link
    (w : World)
    (rs : List Log.Record) :
    (w.tell rs).link = w.link :=
  rfl

@[simp] theorem tell_now
    (w : World)
    (rs : List Log.Record) :
    (w.tell rs).now = w.now :=
  rfl

@[simp] theorem tell_nil
    (w : World) :
    w.tell [] = w := by
  simp [tell]

@[simp] theorem tell_tell
    (w : World)
    (rs ts : List Log.Record) :
    (w.tell rs).tell ts = w.tell (rs ++ ts) := by
  simp [tell]

/-- The texts printed so far. -/
def texts (w : World) : List String :=
  w.events.filterMap Log.Event.text?

/-- The records so far that tell of a change of stage. -/
def moves (w : World) : List Log.Record :=
  w.records.filter Log.Record.isMove

/-- A world as it looks when its log is read for changes of stage only. -/
structure Sight where
  files : Files.Tree
  link : Net.Link
  now : Time.Moment
  moves : List Log.Record
  texts : List String

/-- The sight of a world. -/
def sight (w : World) : Sight :=
  ⟨w.files, w.link, w.now, w.moves, w.texts⟩

theorem records_tell
    (w : World)
    (rs : List Log.Record) :
    (w.tell rs).records = w.records ++ rs := by
  have h : (rs.map Log.Event.logged).filterMap Log.Event.record? = rs := by
    rw [List.filterMap_map]
    exact List.filterMap_some
  simp [records, tell, h]

theorem moves_tell
    (w : World)
    (rs : List Log.Record) :
    (w.tell rs).moves = w.moves ++ rs.filter Log.Record.isMove := by
  rw [moves, records_tell, List.filter_append, moves]

@[simp] theorem texts_tell
    (w : World)
    (rs : List Log.Record) :
    (w.tell rs).texts = w.texts := by
  have h : (rs.map Log.Event.logged).filterMap Log.Event.text? = [] := by
    rw [List.filterMap_map, List.filterMap_eq_nil_iff]
    intro r _
    rfl
  simp [texts, tell, h]

/-- Quiet records leave no trace. -/
theorem sight_tell
    (w : World)
    {rs : List Log.Record}
    (h : Log.Quiet rs) :
    (w.tell rs).sight = w.sight := by
  simp [sight, moves_tell, Log.filter_isMove_of_quiet h]

/-- A printed text is all that printing leaves. -/
theorem sight_print
    (w : World)
    (text : String) :
    (w.push (.printed text)).sight = { w.sight with texts := w.texts ++ [text] } := by
  have hr : (w.push (.printed text)).records = w.records := by
    simp [records, push, List.filterMap_append, Log.Event.record?]
  have hm : (w.push (.printed text)).moves = w.moves := by
    rw [moves, hr, moves]
  have ht : (w.push (.printed text)).texts = w.texts ++ [text] := by
    simp [texts, push, List.filterMap_append, Log.Event.text?]
  rw [sight, hm, ht]
  rfl

end World

namespace Act

theorem log_eq
    (s : Log.Severity)
    (text : String)
    (w : World) :
    Act.log s text w = (.ok (), w.tell [⟨s, text⟩]) :=
  rfl

theorem logAll_eq
    (rs : List Log.Record)
    (w : World) :
    Act.logAll rs w = (.ok (), w.tell rs) :=
  rfl

theorem abort_eq
    {α : Type}
    (f : Failure)
    (w : World) :
    (Act.abort f : Act World α) w = (.error f, w.tell [⟨.error, f.message⟩]) :=
  rfl

variable {α : Type}

theorem log_shows
    {s : Log.Severity}
    {text : String}
    (h : Log.Record.isMove ⟨s, text⟩ = false)
    (w : World) :
    Shows World.sight (log s text) w (.ok ()) w.sight :=
  ⟨rfl, World.sight_tell w (Log.quiet_cons h Log.quiet_nil)⟩

theorem logAll_shows
    {rs : List Log.Record}
    (h : Log.Quiet rs)
    (w : World) :
    Shows World.sight (logAll rs) w (.ok ()) w.sight :=
  ⟨rfl, World.sight_tell w h⟩

theorem abort_shows
    (f : Failure)
    (w : World) :
    Shows World.sight (abort f : Act World α) w (.error f) w.sight :=
  ⟨rfl, World.sight_tell w
    (Log.quiet_cons (Log.isMove_of_severity _ (by decide)) Log.quiet_nil)⟩

theorem print_shows
    (text : String)
    (w : World) :
    Shows World.sight (print text) w (.ok ()) { w.sight with texts := w.texts ++ [text] } :=
  ⟨rfl, World.sight_print w text⟩

end Act
end Rebalance
