import Mathlib.Data.List.Basic

/-!
`NodeWebLocal.Write` (node_web_local.go). `Start` makes the node itself the child's
stdout and stderr, so os/exec's copy loop calls `Write` with each chunk it reads
from the pipe, wherever the chunk ends. `Write` cuts its chunk with
`bytes.Buffer.ReadBytes('\n')` and sends each line longer than one byte to the
shared stream, after the node's name padded to the longest name, in the node's
colour. The bytes after the chunk's last newline come back with `io.EOF`, which
ends the loop, and are not kept for the next chunk. `Write` returns `len(p), nil`
whatever it sent, so the copy loop goes on. A buffer never returns an error other
than `io.EOF`, so the loop's other exit is left out.
-/

namespace EtcdPlay.LogStream

inductive Attribute where
  | fgRed
  | fgGreen
  | fgYellow
  | fgBlue
  | fgMagenta
  deriving DecidableEq, Repr

def colorsTerminal : List Attribute := [.fgRed, .fgGreen, .fgYellow, .fgBlue, .fgMagenta]

def colorsToHTML : Attribute → String
  | .fgRed => "#ff0000"
  | .fgGreen => "#008000"
  | .fgYellow => "#ff9933"
  | .fgBlue => "#0000ff"
  | .fgMagenta => "#ff00ff"

/-- What `Write` reads of the node. `NewCluster` wraps `colorIdx` around the table,
so it is always an index of it. -/
structure NodeWebLocal where
  colorIdx : Fin colorsTerminal.length
  maxProcNameLength : Nat
  name : String

/-- A message on the shared stream, as `fmt.Sprintf(format, nd.Flags.Name, line)`
is given it. -/
structure StreamLine where
  color : String
  width : Nat
  name : String
  line : List UInt8
  deriving DecidableEq, Repr

/-- The text of the message: `<b><font color="%s">` then `%*s | ` then `</font>`,
then the line and `</b>`. -/
def StreamLine.render (m : StreamLine) : List UInt8 :=
  ("<b><font color=\"" ++ m.color ++ "\">" ++ "".pushn ' ' (m.width - m.name.length) ++ m.name ++
      " | </font>").toUTF8.toList ++ m.line ++ "</b>".toUTF8.toList

def newline : UInt8 := 10

/-- `bytes.Buffer.ReadBytes(delim)`: the bytes up to and including the first `delim`
and the bytes after it, or, with `io.EOF`, all the bytes. -/
def readBytes (delim : UInt8) : List UInt8 → Except (List UInt8) (List UInt8 × List UInt8)
  | [] => .error []
  | b :: bs =>
      if b = delim then .ok ([b], bs)
      else
        match readBytes delim bs with
        | .ok (line, rest) => .ok (b :: line, rest)
        | .error tail => .error (b :: tail)

theorem readBytes_ok {delim : UInt8} {buf line rest : List UInt8}
    (h : readBytes delim buf = .ok (line, rest)) : buf = line ++ rest ∧ line ≠ [] := by
  induction buf generalizing line with
  | nil => cases h
  | cons b bs ih =>
    unfold readBytes at h
    split at h
    · cases h
      exact ⟨rfl, List.cons_ne_nil _ _⟩
    · split at h
      · rename_i line' rest' found
        cases h
        exact ⟨by rw [(ih found).1, List.cons_append], List.cons_ne_nil _ _⟩
      · cases h

theorem readBytes_shorter {delim : UInt8} {buf line rest : List UInt8}
    (h : readBytes delim buf = .ok (line, rest)) : rest.length < buf.length := by
  obtain ⟨rfl, nonempty⟩ := readBytes_ok h
  rw [List.length_append]
  have := List.length_pos.mpr nonempty
  omega

/-- The loop of `Write`: the lines it sends from one chunk, in order. -/
def lines (buf : List UInt8) : List (List UInt8) :=
  match h : readBytes newline buf with
  | .error _ => []
  | .ok (line, rest) =>
      have : rest.length < buf.length := readBytes_shorter h
      (if 1 < line.length then [line] else []) ++ lines rest
termination_by buf.length

theorem lines_of_error {buf tail : List UInt8} (h : readBytes newline buf = .error tail) :
    lines buf = [] := by
  rw [lines]
  split
  · rfl
  · simp_all

theorem lines_of_ok {buf line rest : List UInt8} (h : readBytes newline buf = .ok (line, rest)) :
    lines buf = (if 1 < line.length then [line] else []) ++ lines rest := by
  rw [lines]
  split
  · simp_all
  · rename_i found
    rw [h, Except.ok.injEq, Prod.mk.injEq] at found
    obtain ⟨rfl, rfl⟩ := found
    rfl

/-- `NodeWebLocal.Write`: the messages it sends, and the count it returns with a
`nil` error. -/
def write (nd : NodeWebLocal) (p : List UInt8) : List StreamLine × Nat :=
  ((lines p).map fun line =>
      ⟨colorsToHTML (colorsTerminal.get nd.colorIdx), nd.maxProcNameLength, nd.name, line⟩,
    p.length)

/-- What the shared stream receives from a child whose output the copy loop reads
in the chunks `chunks`. -/
def copy (nd : NodeWebLocal) (chunks : List (List UInt8)) : List StreamLine :=
  chunks.flatMap fun p => (write nd p).1

/-- The newline-terminated lines of a byte string, each with its newline, after the
bytes `line` already read; an unterminated tail is no line. -/
def terminatedLines (line : List UInt8) : List UInt8 → List (List UInt8)
  | [] => []
  | b :: bs =>
      if b = newline then (line ++ [b]) :: terminatedLines [] bs
      else terminatedLines (line ++ [b]) bs

section Lines
variable {line : List UInt8} {b : UInt8} {bs : List UInt8}

theorem terminatedLines_newline : terminatedLines line (newline :: bs) = (line ++ [newline]) :: terminatedLines [] bs :=
  if_pos rfl

theorem terminatedLines_other (other : b ≠ newline) :
    terminatedLines line (b :: bs) = terminatedLines (line ++ [b]) bs :=
  if_neg other

theorem terminatedLines_of_ok {buf first rest : List UInt8} (h : readBytes newline buf = .ok (first, rest)) :
    terminatedLines line buf = (line ++ first) :: terminatedLines [] rest := by
  induction buf generalizing line first with
  | nil => cases h
  | cons b bs ih =>
    rw [readBytes] at h
    by_cases found : b = newline
    · rw [if_pos found, Except.ok.injEq, Prod.mk.injEq] at h
      obtain ⟨rfl, rfl⟩ := h
      subst found
      exact terminatedLines_newline
    · rw [if_neg found] at h
      split at h
      · rename_i first' rest' later
        cases h
        rw [terminatedLines_other found, ih later, List.append_assoc, List.singleton_append]
      · cases h

theorem terminatedLines_of_error {buf tail : List UInt8} (h : readBytes newline buf = .error tail) :
    terminatedLines line buf = [] := by
  induction buf generalizing line tail with
  | nil => rfl
  | cons b bs ih =>
    rw [readBytes] at h
    by_cases found : b = newline
    · rw [if_pos found] at h
      cases h
    · rw [if_neg found] at h
      split at h
      · cases h
      · rw [terminatedLines_other found, ih ‹_›]

end Lines

/-- On one chunk `Write` sends exactly its newline-terminated lines longer than one
byte, in order. -/
theorem lines_eq_terminatedLines (buf : List UInt8) :
    lines buf = (terminatedLines [] buf).filter fun line => 1 < line.length := by
  induction buf using lines.induct with
  | case1 buf tail found => rw [lines_of_error found, terminatedLines_of_error found]; rfl
  | case2 buf line rest found _ ih =>
    rw [lines_of_ok found, terminatedLines_of_ok found, ih, List.nil_append]
    by_cases long : 1 < line.length <;> simp [List.filter_cons, long]

/-- Lines that a chunk boundary does not cut: a chunk that ends with a newline
leaves nothing for the next. -/
theorem terminatedLines_append (line : List UInt8) {c : List UInt8}
    (ends : c.getLast? = some newline) (d : List UInt8) :
    terminatedLines line (c ++ d) = terminatedLines line c ++ terminatedLines [] d := by
  induction c generalizing line with
  | nil => cases ends
  | cons b bs ih =>
    cases bs with
    | nil =>
      obtain rfl : b = newline := by simpa using ends
      rw [List.singleton_append, terminatedLines_newline, terminatedLines_newline]
      rfl
    | cons b' bs' =>
      have rest : (b' :: bs').getLast? = some newline := by rwa [List.getLast?_cons_cons] at ends
      rw [List.cons_append]
      by_cases found : b = newline
      · subst found
        rw [terminatedLines_newline, terminatedLines_newline, ih _ rest]
        rfl
      · rw [terminatedLines_other found, terminatedLines_other found, ih _ rest]

def nodeA : NodeWebLocal := ⟨⟨0, by decide⟩, 1, "a"⟩

/-- When every chunk ends at a newline, the stream gets exactly the
newline-terminated lines longer than one byte of the whole output, in order. -/
theorem copy_of_whole_lines (nd : NodeWebLocal) (chunks : List (List UInt8))
    (whole : ∀ c ∈ chunks, c.getLast? = some newline) :
    (copy nd chunks).map StreamLine.line =
      (terminatedLines [] chunks.flatten).filter fun line => 1 < line.length := by
  induction chunks with
  | nil => rfl
  | cons c rest ih =>
    rw [List.flatten_cons, terminatedLines_append _ (whole c (List.mem_cons_self _ _)), List.filter_append,
      ← ih fun c mem => whole c (List.mem_cons_of_mem _ mem), ← lines_eq_terminatedLines]
    simp [copy, write, Function.comp_def]

theorem whole_line_copied :
    (∀ c ∈ ([[104, 105, 10]] : List (List UInt8)), c.getLast? = some newline) ∧
      (copy nodeA [[104, 105, 10]]).map StreamLine.line =
        (terminatedLines [] ([[104, 105, 10]] : List (List UInt8)).flatten).filter fun line => 1 < line.length :=
  ⟨by decide, copy_of_whole_lines nodeA _ (by decide)⟩

/-- The child writes `a` and then `b\n`, and the pipe delivers them as two chunks:
the stream gets `b\n` alone, `Write` reports the byte `a` as written, and the line
of the output is `ab\n`. -/
theorem write_drops_unterminated_tail :
    (copy nodeA [[97], [98, 10]]).map StreamLine.line = [[98, 10]] ∧ (write nodeA [97]).2 = 1 ∧
      (terminatedLines [] ([97] ++ [98, 10])).filter (fun line => 1 < line.length) = [[97, 98, 10]] := by
  have unterminated : lines [97] = [] := @lines_of_error [97] [97] rfl
  have terminated : lines [98, 10] = [[98, 10]] := by
    rw [@lines_of_ok [98, 10] [98, 10] [] rfl, @lines_of_error [] [] rfl]
    rfl
  exact ⟨by simp [copy, write, unterminated, terminated], rfl, by decide⟩

end EtcdPlay.LogStream
