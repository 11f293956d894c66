import Mathlib.Data.List.Forall2
import Rebalance.Log.Console

/-!
# Records of a logger that was created once or more

* `Console.holding`: the console where one logger was asked for.  Only the root stands around it
  (`lineageOf_holding`), whatever dots its name has.
* `created_eq`: calls that create one logger leave one logger, with one pair of handlers and the
  last level that a call gave it.
* `written_holding`: a record of that logger goes to its handlers once, if its level is positive,
  can be named, and reaches that of the logger, or that of the root where the logger has none.
* `messages_written_once`: so of the messages logged after such calls, on levels that the handlers
  take and that have not too many digits, none is lost and none is doubled.
-/

namespace Rebalance
namespace Log
namespace Console

/-! ## One logger -/

/-- The console where one logger was asked for.  The root is always there. -/
def holding (l : Logger) : Console :=
  if l.name = rootName then ⟨[l]⟩ else ⟨[firstRoot, l]⟩

theorem find?_holding
    {l : Logger}
    {name : String} :
    (holding l).find? name =
      if name = l.name then some l else if name = rootName then some firstRoot else none := by
  have hone (a : Logger) (ls : List Logger) :
      (a :: ls).find? (fun l => l.name == name) =
        if name = a.name then some a else ls.find? (fun l => l.name == name) := by
    by_cases h : name = a.name
    · rw [if_pos h, List.find?_cons_of_pos (by exact beq_iff_eq.mpr h.symm)]
    · rw [if_neg h, List.find?_cons_of_neg (by exact fun heq => h (eq_of_beq heq).symm)]
  unfold holding find?
  split
  · next hroot =>
    rw [hone, List.find?_nil]
    split
    · rfl
    · next hne => rw [if_neg (hroot ▸ hne)]
  · next hroot =>
    rw [hone, hone, List.find?_nil]
    by_cases hname : name = l.name
    · rw [if_pos hname, if_pos hname, if_neg (hname ▸ hroot)]
    · rw [if_neg hname, if_neg hname]
      rfl

theorem nameOf_nameOf
    (name : String) :
    nameOf (nameOf name) = nameOf name := by
  unfold nameOf
  by_cases h : name = ""
  · rw [if_pos h, if_neg (by decide)]
  · rw [if_neg h, if_neg h]

theorem logger_holding
    {l : Logger}
    {name : String}
    (h : nameOf name = l.name) :
    (holding l).logger name = l := by
  rw [logger, find?_holding, if_pos h, Option.getD_some]

theorem ask_holding
    {l : Logger}
    {name : String}
    (h : nameOf name = l.name) :
    (holding l).ask name = holding l := by
  rw [ask, find?_holding, if_pos h, if_pos Option.isSome_some]

theorem update_of_ask
    {c : Console}
    {l : Logger}
    {name : String}
    {f : Logger → Logger}
    (hask : c.ask name = holding l)
    (hname : nameOf name = l.name)
    (hf : (f l).name = l.name) :
    c.update name f = holding (f l) := by
  unfold update
  rw [hask, hname, holding, holding, hf]
  split
  · next hroot => rw [List.map_singleton, if_pos rfl]
  · next hroot =>
    have hne : ¬ firstRoot.name = l.name := fun h => hroot h.symm
    rw [List.map_cons, List.map_singleton, if_neg hne, if_pos rfl]

/-! ## The first call -/

/-- Where no logger was asked for there is the root alone. -/
theorem find?_start
    (name : String) :
    start.find? name = if name = rootName then some firstRoot else none := by
  have hstart : start = holding firstRoot := rfl
  rw [hstart, find?_holding]
  by_cases h : name = rootName
  · rw [if_pos h]
    exact if_pos h
  · rw [if_neg h]
    exact if_neg h

theorem logger_start
    (name : String) :
    start.logger name = if nameOf name = rootName then firstRoot else fresh (nameOf name) := by
  rw [logger, find?_start]
  split <;> rfl

theorem name_logger_start
    (name : String) :
    (start.logger name).name = nameOf name := by
  rw [logger_start]
  split
  · next h => exact h.symm
  · rfl

theorem ask_start
    (name : String) :
    start.ask name = holding (start.logger name) := by
  rw [holding, name_logger_start, logger_start, ask, find?_start]
  split <;> rfl

/-! ## Calls -/

/-- Whether a value is absent, a name or a number, so that a logger can be created with it. -/
def isTaken : Data → Bool
  | .null | .text _ | .int _ | .bool _ => true
  | _ => false

/-- A logger after a call with a level.  A name of no level leaves the level as it was. -/
def changed (l : Logger) (level : Data) : Logger :=
  if isTaken level then
    { l with hasHandlers := true, level := (Level.read level).toOption.getD l.level }
  else l

theorem name_changed
    (l : Logger)
    (level : Data) :
    (changed l level).name = l.name := by
  unfold changed
  split <;> rfl

/-- A call changes the logger of its name and nothing else. -/
theorem create_snd
    {c : Console}
    {l : Logger}
    {name : String}
    (stamp : String)
    (level : Data)
    (hask : c.ask name = holding l)
    (hname : nameOf name = l.name) :
    (c.create stamp name level).2 = holding (changed l level) := by
  have hupdate {f : Logger → Logger} (hf : (f l).name = l.name) :
      c.update name f = holding (f l) := update_of_ask hask hname hf
  cases level with
  | null => exact hupdate rfl
  | int n => exact hupdate rfl
  | bool b => exact hupdate rfl
  | text s =>
    unfold create changed Level.read
    dsimp only
    cases Level.ofName? s with
    | some k => exact hupdate rfl
    | none =>
      show (c.update name attach).ask name = holding _
      rw [hupdate rfl]
      exact ask_holding hname
  | _ => exact hask

/-- The console after calls that create one logger, each at a time and with a level. -/
def created (name : String) (calls : List (String × Data)) : Console :=
  calls.foldl (fun c call => (c.create call.1 name call.2).2) start

/-- Calls that create one logger leave that logger, changed by one call after the other. -/
theorem created_eq
    {name : String}
    {calls : List (String × Data)}
    (h : calls ≠ []) :
    created name calls =
      holding (calls.foldl (fun l call => changed l call.2) (start.logger name)) := by
  have hlater : ∀ (calls : List (String × Data)) (l : Logger), nameOf name = l.name →
      calls.foldl (fun c call => (c.create call.1 name call.2).2) (holding l) =
        holding (calls.foldl (fun l call => changed l call.2) l) := by
    intro calls
    induction calls with
    | nil => exact fun _ _ => rfl
    | cons call rest ih =>
      intro l hname
      rw [List.foldl_cons, List.foldl_cons, create_snd _ _ (ask_holding hname) hname]
      exact ih _ (hname.trans (name_changed l call.2).symm)
  obtain ⟨call, rest, rfl⟩ := List.exists_cons_of_ne_nil h
  have hname := (name_logger_start name).symm
  rw [created, List.foldl_cons, List.foldl_cons, create_snd _ _ (ask_start name) hname]
  exact hlater rest _ (hname.trans (name_changed _ call.2).symm)

/-- The levels that calls give, in their order. -/
def levelsOf (calls : List (String × Data)) : List Level :=
  calls.filterMap fun call => (Level.read call.2).toOption

theorem getLast?_levelsOf_cons
    (call : String × Data)
    (rest : List (String × Data))
    (first : Level) :
    (levelsOf (call :: rest)).getLast?.getD first =
      (levelsOf rest).getLast?.getD ((Level.read call.2).toOption.getD first) := by
  unfold levelsOf
  rw [List.filterMap_cons]
  split
  · next hnone => rw [hnone, Option.getD_none]
  · next l hsome => rw [hsome, List.getLast?_cons, Option.getD_some, Option.getD_some]

theorem changed_eq
    (l : Logger)
    (level : Data) :
    changed l level =
      { l with
        level := (Level.read level).toOption.getD l.level
        hasHandlers := l.hasHandlers || isTaken level } := by
  cases level with
  | null | int _ | bool _ | text _ =>
    show Logger.mk _ _ true = Logger.mk _ _ (l.hasHandlers || true)
    rw [Bool.or_true]
  | _ =>
    show l = Logger.mk _ _ (l.hasHandlers || false)
    rw [Bool.or_false]
    rfl

/-- After calls a logger has the last level that one of them gave it, and its handlers if one of
them could create it. -/
theorem foldl_changed
    (l : Logger)
    (calls : List (String × Data)) :
    calls.foldl (fun l call => changed l call.2) l =
      { l with
        level := (levelsOf calls).getLast?.getD l.level
        hasHandlers := l.hasHandlers || calls.any fun call => isTaken call.2 } := by
  induction calls generalizing l with
  | nil =>
    rw [List.foldl_nil, List.any_nil, Bool.or_false]
    rfl
  | cons call rest ih =>
    rw [List.foldl_cons, ih, changed_eq, getLast?_levelsOf_cons, List.any_cons, Bool.or_assoc]

/-! ## The loggers around it -/

theorem length_beforeDot
    {cs : List Char}
    (h : beforeDot cs ≠ []) :
    (beforeDot cs).length < cs.length := by
  have hle : (cs.reverse.dropWhile (· ≠ '.')).length ≤ cs.reverse.length :=
    (List.dropWhile_suffix _).length_le
  rw [List.length_reverse] at hle
  have hpos := List.length_pos_iff.mpr h
  unfold beforeDot at hpos ⊢
  rw [List.length_reverse, List.length_drop] at hpos ⊢
  omega

/-- The names around a name are shorter. -/
theorem length_of_mem_outerNames
    {fuel : Nat}
    {cs : List Char}
    {outer : String}
    (h : outer ∈ outerNames fuel cs) :
    outer.toList.length < cs.length := by
  induction fuel generalizing cs with
  | zero => cases h
  | succ fuel ih =>
    unfold outerNames at h
    dsimp only at h
    split at h
    · cases h
    · next hempty =>
      have hlt := length_beforeDot fun hnil => hempty (List.isEmpty_iff.mpr hnil)
      rcases List.mem_cons.mp h with rfl | hrest
      · rw [String.toList_ofList]
        exact hlt
      · have hdrop : (beforeDot cs).dropLast.length ≤ (beforeDot cs).length := by
          rw [List.length_dropLast]
          exact Nat.sub_le _ _
        exact Nat.lt_trans (Nat.lt_of_lt_of_le (ih hrest) hdrop) hlt

/-- Only the root can stand around the logger of a console that holds no other. -/
theorem outer?_holding
    {l : Logger}
    {outer : String}
    (h : (holding l).outer? l.name = some outer) :
    outer = rootName := by
  have hmem := List.mem_of_find?_eq_some h
  have hne : outer ≠ l.name := by
    rintro rfl
    exact Nat.lt_irrefl _ (length_of_mem_outerNames hmem)
  have hin := List.find?_some (p := fun outer => (holding l).takesIn outer l.name) h
  have hfind := (Bool.and_eq_true_iff.mp hin).1
  rw [find?_holding, if_neg hne] at hfind
  split at hfind
  · next hroot => exact hroot
  · cases hfind

theorem root_holding
    (l : Logger) :
    (holding l).root = if l.name = rootName then l else firstRoot := by
  rw [root, find?_holding]
  by_cases h : l.name = rootName
  · rw [if_pos h, if_pos h.symm, Option.getD_some]
  · rw [if_neg h, if_neg fun heq => h heq.symm, if_pos rfl, Option.getD_some]

/-- A record goes through the logger and the root. -/
theorem lineageOf_holding
    {l : Logger}
    {name : String}
    (h : nameOf name = l.name) :
    (holding l).lineageOf name = if l.name = rootName then [l] else [l, firstRoot] := by
  have hlogger : (holding l).logger l.name = l := logger_holding (h ▸ nameOf_nameOf name)
  have hroot := root_holding l
  unfold lineageOf lineage
  rw [h, hlogger, hroot]
  by_cases hname : l.name = rootName
  · rw [if_pos hname, if_pos hname, if_pos hname]
  · rw [if_neg hname, if_neg hname, if_neg hname]
    rw [if_neg hname] at hroot
    split
    · next outer houter =>
      rw [outer?_holding houter]
      cases name.length with
      | zero => rw [lineage, hroot]
      | succ fuel => rw [lineage, if_pos rfl, hroot]
    · rfl

/-! ## Records -/

theorem handled_of_le
    {level : Int}
    (h : level ≤ 30)
    (line : String) :
    handled level line = ⟨line, ""⟩ := by
  have herr : ¬ isForErr level = true := fun he => by
    have := of_decide_eq_true he
    omega
  have hout : isForOut level = true := decide_eq_true h
  rw [handled, if_pos hout, if_neg herr]

theorem handled_of_ge
    {level : Int}
    (h : 40 ≤ level)
    (line : String) :
    handled level line = ⟨"", line⟩ := by
  have hout : ¬ isForOut level = true := fun ho => by
    have := of_decide_eq_true ho
    omega
  have herr : isForErr level = true := decide_eq_true h
  rw [handled, if_neg hout, if_pos herr]

/-- The level that a record has to reach where only the root stands around a logger: that of the
logger, or that of the root if the logger has none. -/
def reach (l : Logger) : Int :=
  if l.level.value ≠ 0 then l.level.value
  else if l.name = rootName then 0 else firstRoot.level.value

theorem levelOf_holding
    {l : Logger}
    {name : String}
    (h : nameOf name = l.name) :
    (holding l).levelOf name = reach l := by
  have hfirst (n : Int) (ns : List Int) :
      ((n :: ns).find? (· ≠ 0)).getD 0 = if n ≠ 0 then n else (ns.find? (· ≠ 0)).getD 0 := by
    rw [List.find?_cons]
    by_cases hn : n = 0
    · rw [decide_eq_false (not_not_intro hn), if_neg (not_not_intro hn)]
    · rw [decide_eq_true hn, if_pos hn, Option.getD_some]
  unfold levelOf reach
  rw [lineageOf_holding h]
  by_cases hroot : l.name = rootName
  · rw [if_pos hroot, if_pos hroot]
    exact hfirst _ []
  · rw [if_neg hroot, if_neg hroot]
    exact hfirst _ [firstRoot.level.value]

theorem isShort_of_lt
    {n : Int}
    (hpos : 0 ≤ n)
    (h : n < 10 ^ Decimal.digitLimit) :
    Decimal.isShort n = true := by
  have hcast := Int.natCast_pow 10 Decimal.digitLimit
  unfold Decimal.isShort
  generalize 10 ^ Decimal.digitLimit = k at hcast ⊢
  rw [decide_eq_true_iff]
  rw [show ((10 : Nat) : Int) = 10 from rfl] at hcast
  omega

/-- A level of few enough digits can be named. -/
theorem exists_name?_of_lt
    {level : Level}
    (hpos : 0 < level.value)
    (hlt : level.value < 10 ^ Decimal.digitLimit) :
    ∃ called, level.name? = some called := by
  have htext : ∃ text, level.text? = some text := by
    cases level with
    | truth b => exact ⟨_, rfl⟩
    | number n =>
      have hshort := isShort_of_lt (Int.le_of_lt hpos) hlt
      rw [Level.value] at hshort
      exact ⟨Decimal.intText n, by rw [Level.text?, if_pos hshort]⟩
  obtain ⟨text, htext⟩ := htext
  unfold Level.name?
  split
  · exact ⟨_, rfl⟩
  · exact ⟨_, rfl⟩
  · exact ⟨_, rfl⟩
  · exact ⟨_, rfl⟩
  · exact ⟨_, rfl⟩
  · exact ⟨_, rfl⟩
  · exact ⟨_, by rw [htext]; rfl⟩

/-- A record of a logger with handlers goes to them once, if it can be made. -/
theorem written_holding
    {l : Logger}
    {name : String}
    (h : nameOf name = l.name)
    (hhandlers : l.hasHandlers = true)
    (stamp : String)
    (level : Level)
    (message : String) :
    (holding l).written stamp name level message =
      if 0 < level.value ∧ reach l ≤ level.value then
        match level.name? with
        | some called => handled level.value (line stamp name called message)
        | none => .none
      else .none := by
  have hfilter : ((holding l).lineageOf name).filter Logger.hasHandlers = [l] := by
    rw [lineageOf_holding h]
    split
    · exact List.filter_cons_of_pos hhandlers
    · rw [List.filter_cons_of_pos hhandlers]
      rfl
  have honce (o : Output) : o.repeated 1 = o := by
    show Output.mk (o.out ++ "") (o.err ++ "") = o
    rw [String.append_empty, String.append_empty]
  unfold written isEnabled
  rw [hfilter, levelOf_holding h]
  simp only [Bool.and_eq_true_iff, decide_eq_true_iff]
  split
  · cases level.name? with
    | some called => exact honce _
    | none => rfl
  · rfl

/-- A message to be logged at a time and with a level, as a pattern and its arguments. -/
structure Message where
  stamp : String
  level : Level
  pattern : String
  args : List Data

/-- Logs messages one after another: the console after them, and what each of them adds to the
outputs. -/
def logAll (c : Console) (room : Nat) (name : String) : List Message → Console × List Output
  | [] => (c, [])
  | m :: rest =>
    let (c, o) := c.logPattern room m.stamp name m.level m.pattern m.args
    let (c, os) := c.logAll room name rest
    (c, o :: os)

/-- Whether what a message adds to the outputs is its line, once and at its place, or nothing where
its level is not reached.  The line calls the level by its name; a level of too many digits has
none. -/
structure WrittenOnce (room : Nat) (name : String) (least : Int) (m : Message) (o : Output) :
    Prop where
  toOut : ∀ text, Pattern.message? room m.pattern m.args = some text →
    0 < m.level.value → least ≤ m.level.value → m.level.value ≤ 30 →
    ∃ called, m.level.name? = some called ∧ o = ⟨line m.stamp name called text, ""⟩
  toErr : ∀ text, Pattern.message? room m.pattern m.args = some text →
    m.level.value < 10 ^ Decimal.digitLimit → least ≤ m.level.value → 40 ≤ m.level.value →
    ∃ called, m.level.name? = some called ∧ o = ⟨"", line m.stamp name called text⟩
  silent : m.level.value ≤ 0 ∨ m.level.value < least → o = .none

/-- A message leaves the console as it is and is written once. -/
theorem logPattern_holding
    (room : Nat)
    {l : Logger}
    {name : String}
    (h : nameOf name = l.name)
    (hhandlers : l.hasHandlers = true)
    (m : Message) :
    ∃ o, (holding l).logPattern room m.stamp name m.level m.pattern m.args = (holding l, o) ∧
      WrittenOnce room name (reach l) m o := by
  unfold logPattern
  cases htext : Pattern.message? room m.pattern m.args with
  | none =>
    refine ⟨.none, by rw [ask_holding h], ?_, ?_, fun _ => rfl⟩
    · intro text hsome
      rw [htext] at hsome
      cases hsome
    · intro text hsome
      rw [htext] at hsome
      cases hsome
  | some text =>
    refine ⟨_, by dsimp only [log]; rw [ask_holding h], ?_⟩
    rw [written_holding h hhandlers]
    refine ⟨?_, ?_, ?_⟩
    · intro text' hsome hpos hleast hout
      obtain rfl := Option.some.inj (htext.symm.trans hsome)
      have hlimit : (30 : Int) < 10 ^ Decimal.digitLimit := by decide +kernel
      obtain ⟨called, hcalled⟩ := exists_name?_of_lt hpos (Int.lt_of_le_of_lt hout hlimit)
      refine ⟨called, hcalled, ?_⟩
      rw [if_pos ⟨hpos, hleast⟩, hcalled]
      exact handled_of_le hout _
    · intro text' hsome hlt hleast herr
      obtain rfl := Option.some.inj (htext.symm.trans hsome)
      have hpos : 0 < m.level.value := Int.lt_of_lt_of_le (by decide) herr
      obtain ⟨called, hcalled⟩ := exists_name?_of_lt hpos hlt
      refine ⟨called, hcalled, ?_⟩
      rw [if_pos ⟨hpos, hleast⟩, hcalled]
      exact handled_of_ge herr _
    · intro hlow
      rw [if_neg (by omega)]

/-- Messages leave the console as it is and are each written once. -/
theorem logAll_holding
    (room : Nat)
    {l : Logger}
    {name : String}
    (h : nameOf name = l.name)
    (hhandlers : l.hasHandlers = true)
    (messages : List Message) :
    ∃ outputs, (holding l).logAll room name messages = (holding l, outputs) ∧
      List.Forall₂ (WrittenOnce room name (reach l)) messages outputs := by
  induction messages with
  | nil => exact ⟨[], rfl, .nil⟩
  | cons m rest ih =>
    obtain ⟨o, ho, hwritten⟩ := logPattern_holding room h hhandlers m
    obtain ⟨os, hos, hrest⟩ := ih
    refine ⟨o :: os, ?_, .cons hwritten hrest⟩
    rw [logAll, ho]
    dsimp only
    rw [hos]

/-- However often a logger was created, it has the last level that was given, and every message that
is logged then is written once, up to the level of warnings to the standard output and from that of
errors on to the standard error. -/
theorem messages_written_once
    (room : Nat)
    (name : String)
    (calls : List (String × Data))
    (messages : List Message)
    (hcalls : ∃ call ∈ calls, isTaken call.2 = true) :
    ((created name calls).logger name).level =
        (levelsOf calls).getLast?.getD (start.logger name).level ∧
      ∃ outputs, (created name calls).logAll room name messages = (created name calls, outputs) ∧
        List.Forall₂ (WrittenOnce room name (reach ((created name calls).logger name)))
          messages outputs := by
  have hne : calls ≠ [] := by
    rintro rfl
    obtain ⟨_, hmem, _⟩ := hcalls
    cases hmem
  have hany : (calls.any fun call => isTaken call.2) = true := List.any_eq_true.mpr hcalls
  have hl := foldl_changed (start.logger name) calls
  rw [created_eq hne]
  generalize calls.foldl (fun l call => changed l call.2) (start.logger name) = l at hl
  have hname : nameOf name = l.name := by
    rw [hl]
    exact (name_logger_start name).symm
  have hhandlers : l.hasHandlers = true := by
    rw [hl, hany, Bool.or_true]
  rw [logger_holding hname]
  exact ⟨by rw [hl], logAll_holding room hname hhandlers messages⟩

/-- A logger below the root's name with a level, a name of no level and no level: one message goes
to each output and one is not reached. -/
theorem messages_written_once_dotted :
    (∃ call ∈ [("12:00", Data.text "INFO"), ("12:01", .text "LOUD"), ("12:02", .null)],
        isTaken call.2 = true) ∧
      (let c := created "root.disk"
        [("12:00", .text "INFO"), ("12:01", .text "LOUD"), ("12:02", .null)]
      let messages : List Message := [⟨"12:03", .number 20, "%s full", [.text "a"]⟩,
        ⟨"12:04", .number 45, "no %s", [.text "b"]⟩, ⟨"12:05", .number 10, "c", []⟩]
      (c.logger "root.disk").level = .number 20 ∧
        (∃ outputs, c.logAll 100 "root.disk" messages = (c, outputs) ∧
          List.Forall₂ (WrittenOnce 100 "root.disk" (reach (c.logger "root.disk")))
            messages outputs) ∧
        (c.logAll 100 "root.disk" messages).2 = [⟨"12:03 - INFO - root.disk - a full\n", ""⟩,
          ⟨"", "12:04 - Level 45 - root.disk - no b\n"⟩, .none]) := by
  have hcalls : ∃ call ∈ [("12:00", Data.text "INFO"), ("12:01", .text "LOUD"), ("12:02", .null)],
      isTaken call.2 = true := ⟨_, List.mem_cons_self, rfl⟩
  have hmain := messages_written_once 100 "root.disk" _
    [⟨"12:03", .number 20, "%s full", [.text "a"]⟩, ⟨"12:04", .number 45, "no %s", [.text "b"]⟩,
      ⟨"12:05", .number 10, "c", []⟩] hcalls
  exact ⟨hcalls, hmain.1, hmain.2, by decide +kernel⟩

/-- A record that reaches the level of its logger is lost where this is no level of its own, and so
is one of no positive level, and one whose level has too many digits. -/
theorem messages_lost_without_level :
    (((created "disk" [("12:00", .int 0)]).logger "disk").level.value = 0 ∧
        ((created "disk" [("12:00", .int 0)]).logAll 100 "disk"
          [⟨"12:01", .number 10, "full", []⟩]).2 = [.none]) ∧
      ((created "disk" [("12:00", .int (-5))]).logger "disk").level.value = -5 ∧
        ((created "disk" [("12:00", .int (-5))]).logAll 100 "disk"
          [⟨"12:01", .number (-1), "full", []⟩]).2 = [.none] ∧
      ((created "disk" [("12:00", .int 10)]).logger "disk").level.value = 10 ∧
        ((created "disk" [("12:00", .int 10)]).logAll 100 "disk"
          [⟨"12:01", .number ((10 ^ Decimal.digitLimit : Nat) : Int), "full", []⟩]).2 =
            [.none] := by
  decide +kernel

end Console
end Log
end Rebalance
