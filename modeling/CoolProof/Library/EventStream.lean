import Mathlib.Data.List.Basic
import Mathlib.Tactic.Common

/-! Server-sent events: the grammar by which a browser reads a `text/event-stream` body, on
characters. The main result is that events written one after the other, each on lines of its
own, are read back one by one, whatever their data holds besides line ends. -/

namespace EventStream

/-- What a blank line dispatches. -/
structure Frame where
  lastEventId : List Char
  eventType : List Char
  data : List Char
deriving DecidableEq

/-- The three buffers of the reader. -/
structure Buffers where
  lastEventId : List Char
  eventType : List Char
  data : List Char
deriving DecidableEq

/-! ## The grammar -/

/-- The lines that have an end, after the characters of a line that has begun, last one first.
A line ends in LF, CR or both. -/
def linesFrom : (line : List Char) → List Char → List (List Char)
  | _, [] => []
  | line, '\r' :: '\n' :: cs => line.reverse :: linesFrom [] cs
  | line, '\r' :: cs => line.reverse :: linesFrom [] cs
  | line, '\n' :: cs => line.reverse :: linesFrom [] cs
  | line, c :: cs => linesFrom (c :: line) cs

def lines (cs : List Char) : List (List Char) := linesFrom [] cs

/-- One field of the event being read. `retry` sets a delay that no frame shows, and a comment
is a field without a name. -/
def Buffers.field (b : Buffers) (name value : List Char) : Buffers :=
  if name = ['e', 'v', 'e', 'n', 't'] then { b with eventType := value }
  else if name = ['d', 'a', 't', 'a'] then { b with data := b.data ++ value ++ ['\n'] }
  else if name = ['i', 'd'] then
    if Char.ofNat 0 ∈ value then b else { b with lastEventId := value }
  else b

/-- The value after the colon, without one space before it. -/
def fieldValue : List Char → List Char
  | ':' :: ' ' :: cs => cs
  | ':' :: cs => cs
  | cs => cs

/-- A line that is not blank; without a colon, all of it is the name. -/
def Buffers.readLine (b : Buffers) (line : List Char) : Buffers :=
  b.field (line.takeWhile fun c => c != ':') (fieldValue (line.dropWhile fun c => c != ':'))

/-- A blank line dispatches what has data. -/
def Buffers.frame (b : Buffers) : Option Frame :=
  if b.data = [] then none
  else some {
    lastEventId := b.lastEventId
    eventType := if b.eventType = [] then ['m', 'e', 's', 's', 'a', 'g', 'e'] else b.eventType
    data := b.data.dropLast }

/-- The id stays for the events after it. -/
def Buffers.next (b : Buffers) : Buffers := { b with eventType := [], data := [] }

/-- An event that no blank line ends is dropped. -/
def frames : Buffers → List (List Char) → List Frame
  | _, [] => []
  | b, [] :: rest => b.frame.toList ++ frames b.next rest
  | b, line :: rest => frames (b.readLine line) rest

def dropByteOrderMark : List Char → List Char
  | c :: cs => if c.toNat = 0xFEFF then cs else c :: cs
  | [] => []

def parse (cs : List Char) : List Frame := frames ⟨[], [], []⟩ (lines (dropByteOrderMark cs))

example : parse ":ok\r\nid: 7\rdata:a\ndata: b\n\nevent: x\n\nid:8\ndata\n\ndata: c".toList =
    [⟨['7'], "message".toList, "a\nb".toList⟩, ⟨['8'], "message".toList, []⟩] := by decide +kernel

/-! ## Lines -/

def OneLine (cs : List Char) : Prop := ∀ c ∈ cs, c ≠ '\n' ∧ c ≠ '\r'

theorem OneLine.append {cs ds : List Char} (first : OneLine cs) (second : OneLine ds) :
    OneLine (cs ++ ds) :=
  fun c member => (List.mem_append.mp member).elim (first c) (second c)

theorem linesFrom_append (line cs rest : List Char) (oneLine : OneLine cs) :
    linesFrom line (cs ++ '\n' :: rest) = (line.reverse ++ cs) :: linesFrom [] rest := by
  induction cs generalizing line with
  | nil => simp [linesFrom]
  | cons c cs ih =>
    obtain ⟨noLf, noCr⟩ := oneLine c List.mem_cons_self
    have more := ih (c :: line) fun d member => oneLine d (List.mem_cons_of_mem c member)
    rw [List.cons_append, linesFrom, more, List.reverse_cons, List.append_assoc,
      List.singleton_append]
    all_goals simp [noLf, noCr]

theorem lines_append (cs rest : List Char) (oneLine : OneLine cs) :
    lines (cs ++ '\n' :: rest) = cs :: lines rest := linesFrom_append [] cs rest oneLine

theorem Buffers.readLine_field (b : Buffers) {name : List Char} (value : List Char)
    (noColon : ':' ∉ name) : b.readLine (name ++ ':' :: ' ' :: value) = b.field name value := by
  have inside : ∀ c ∈ name, (c != ':') = true := by
    intro c member
    simpa using fun same : c = ':' => noColon (same ▸ member)
  rw [Buffers.readLine, List.takeWhile_append_of_pos inside, List.dropWhile_append_of_pos inside]
  simp [fieldValue]

/-! ## Writing -/

/-- An event as a server writes it. -/
structure Outgoing where
  id : Option (List Char)
  name : List Char
  data : List Char

def fieldLine (name value : List Char) : List Char := name ++ ':' :: ' ' :: value

/-- The lines of an event, the blank one last. -/
def Outgoing.lines (o : Outgoing) : List (List Char) :=
  (o.id.map (fieldLine ['i', 'd'])).toList ++
    [fieldLine ['e', 'v', 'e', 'n', 't'] o.name, fieldLine ['d', 'a', 't', 'a'] o.data, []]

def Outgoing.render (o : Outgoing) : List Char := o.lines.flatMap (· ++ ['\n'])

/-- Nothing in the event ends a line, and the id has no null character. -/
structure Outgoing.Sound (o : Outgoing) : Prop where
  id : ∀ id ∈ o.id, OneLine id ∧ Char.ofNat 0 ∉ id
  name : OneLine o.name
  named : o.name ≠ []
  data : OneLine o.data

/-- What a reader gets whose last id is `last`. -/
def received : (last : List Char) → List Outgoing → List Frame
  | _, [] => []
  | last, o :: rest =>
      ⟨o.id.getD last, o.name, o.data⟩ :: received (o.id.getD last) rest

theorem lines_flatMap (ls : List (List Char)) (rest : List Char) (oneLine : ∀ l ∈ ls, OneLine l) :
    EventStream.lines (ls.flatMap (· ++ ['\n']) ++ rest) = ls ++ EventStream.lines rest := by
  induction ls with
  | nil => rfl
  | cons l ls ih =>
    have first := oneLine l List.mem_cons_self
    have others := ih fun m member => oneLine m (List.mem_cons_of_mem l member)
    rw [List.flatMap_cons, List.append_assoc, List.append_assoc, List.singleton_append,
      lines_append _ _ first, others, List.cons_append]

theorem oneLine_fieldLine {name value : List Char} (named : OneLine name)
    (oneLine : OneLine value) : OneLine (fieldLine name value) := by
  have separator : OneLine [':', ' '] := by simp [OneLine]
  exact named.append (separator.append oneLine)

theorem Outgoing.Sound.lines {o : Outgoing} (sound : o.Sound) : ∀ l ∈ o.lines, OneLine l := by
  have names : OneLine ['i', 'd'] ∧ OneLine ['e', 'v', 'e', 'n', 't'] ∧
      OneLine ['d', 'a', 't', 'a'] := by simp [OneLine]
  intro l member
  rcases List.mem_append.mp member with shown | rest
  · obtain ⟨id, given, rfl⟩ := Option.map_eq_some_iff.mp (Option.mem_toList.mp shown)
    exact oneLine_fieldLine names.1 (sound.id id given).1
  · simp only [List.mem_cons, List.not_mem_nil, or_false] at rest
    rcases rest with rfl | rfl | rfl
    · exact oneLine_fieldLine names.2.1 sound.name
    · exact oneLine_fieldLine names.2.2 sound.data
    · simp [OneLine]

/-! ## Reading what was written -/

theorem frames_field (b : Buffers) {name : List Char} (value : List Char) (rest : List (List Char))
    (noColon : ':' ∉ name) :
    frames b (fieldLine name value :: rest) = frames (b.field name value) rest := by
  have read := b.readLine_field value noColon
  obtain ⟨c, cs, shown⟩ : ∃ c cs, fieldLine name value = c :: cs := by
    cases name <;> exact ⟨_, _, rfl⟩
  rw [fieldLine] at shown ⊢
  rw [shown] at read ⊢
  rw [frames, read]
  rintro ⟨⟩

/-- The lines of one event dispatch one frame and leave the buffers clear. -/
theorem frames_lines {o : Outgoing} (sound : o.Sound) (last : List Char)
    (rest : List (List Char)) : frames ⟨last, [], []⟩ (o.lines ++ rest) =
      ⟨o.id.getD last, o.name, o.data⟩ :: frames ⟨o.id.getD last, [], []⟩ rest := by
  have identified : ∀ after, frames ⟨last, [], []⟩
      ((o.id.map (fieldLine ['i', 'd'])).toList ++ after) =
        frames ⟨o.id.getD last, [], []⟩ after := by
    intro after
    cases given : o.id with
    | none => rfl
    | some id =>
      have noNull := (sound.id id given).2
      rw [Option.map_some, Option.toList_some, List.singleton_append,
        frames_field _ _ _ (by decide)]
      simp [Buffers.field, noNull]
  rw [Outgoing.lines, List.append_assoc, identified, List.cons_append, List.cons_append,
    List.singleton_append, frames_field _ _ _ (by decide), frames_field _ _ _ (by decide), frames]
  simp [Buffers.field, Buffers.frame, Buffers.next, sound.named]

theorem frames_render {os : List Outgoing} (sound : ∀ o ∈ os, o.Sound) (last : List Char) :
    frames ⟨last, [], []⟩ (lines (os.flatMap Outgoing.render)) = received last os := by
  induction os generalizing last with
  | nil => rfl
  | cons o os ih =>
    have first := sound o List.mem_cons_self
    have rest := ih (fun p member => sound p (List.mem_cons_of_mem o member)) (o.id.getD last)
    rw [List.flatMap_cons, Outgoing.render, lines_flatMap _ _ first.lines, frames_lines first, rest,
      received]

/-- A body of events is read back as those events, in order and with nothing else. -/
theorem parse_render {os : List Outgoing} (sound : ∀ o ∈ os, o.Sound) :
    parse (os.flatMap Outgoing.render) = received [] os := by
  have noMark : dropByteOrderMark (os.flatMap Outgoing.render) = os.flatMap Outgoing.render := by
    cases os with
    | nil => rfl
    | cons o os =>
      cases given : o.id <;>
        simp [Outgoing.render, Outgoing.lines, fieldLine, given, dropByteOrderMark]
  rw [parse, noMark, frames_render sound]

end EventStream
