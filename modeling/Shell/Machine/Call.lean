import Shell.Machine.FileTree

/-! # System calls

What a process can ask of the machine that it runs on, and the behaviour of a process: a tree that asks one
thing at a time and goes on according to the reply.
-/

/-! ## Signals

The signals of a machine, by number and by name, and what is said of a process that one of them ended.
-/

namespace Shell.Machine

/-- The number of a signal. -/
abbrev Signal := Nat

namespace Signal

/-- Numbers, names and descriptions of the signals that are not for free use. -/
def table : List (Signal × String × String) := [
  (1, "HUP", "Hangup"), (2, "INT", "Interrupt"), (3, "QUIT", "Quit"),
  (4, "ILL", "Illegal instruction"), (5, "TRAP", "Trace/breakpoint trap"), (6, "ABRT", "Aborted"),
  (7, "BUS", "Bus error"), (8, "FPE", "Floating point exception"), (9, "KILL", "Killed"),
  (10, "USR1", "User defined signal 1"), (11, "SEGV", "Segmentation fault"),
  (12, "USR2", "User defined signal 2"), (13, "PIPE", "Broken pipe"), (14, "ALRM", "Alarm clock"),
  (15, "TERM", "Terminated"), (16, "STKFLT", "Stack fault"), (17, "CHLD", "Child exited"),
  (18, "CONT", "Continued"), (19, "STOP", "Stopped (signal)"), (20, "TSTP", "Stopped"),
  (21, "TTIN", "Stopped (tty input)"), (22, "TTOU", "Stopped (tty output)"),
  (23, "URG", "Urgent I/O condition"), (24, "XCPU", "CPU time limit exceeded"),
  (25, "XFSZ", "File size limit exceeded"), (26, "VTALRM", "Virtual timer expired"),
  (27, "PROF", "Profiling timer expired"), (28, "WINCH", "Window changed"),
  (29, "IO", "I/O possible"), (30, "PWR", "Power failure"), (31, "SYS", "Bad system call")]

def interrupt : Signal := 2

/-- The quit key of a terminal. -/
def quit : Signal := 3

/-- Ends a process at once. -/
def kill : Signal := 9

/-- Sent to those who write where nobody reads. -/
def pipe : Signal := 13

/-- Asks a process to end. -/
def terminate : Signal := 15

/-- Sent to a process when a child of it has ended. -/
def child : Signal := 17

/-- Lets a process go on that was stopped. -/
def continue_ : Signal := 18

/-- The greatest number of a signal. -/
def greatest : Nat := 64

/-- Stands for what is done before each command, which no signal arrives for. -/
def debug : Signal := 65

def failure : Signal := 66

/-- Stands for the end of a function. -/
def return_ : Signal := 67

/-- The name of a signal without the `SIG` before it. -/
def name (signal : Signal) : String :=
  match table.lookup signal with
  | some (name, _) => name
  | none =>
    if signal = 0 then "EXIT"
    else if signal = debug then "DEBUG"
    else if signal = failure then "ERR"
    else if signal = return_ then "RETURN"
    else if signal = 34 then "RTMIN"
    else if signal = 64 then "RTMAX"
    else if 34 < signal && signal < 50 then "RTMIN+" ++ toString (signal - 34)
    else if 50 ≤ signal && signal < 64 then "RTMAX-" ++ toString (64 - signal)
    else toString signal

/-- What is said of a process that a signal ended. -/
def description (signal : Signal) : String :=
  match table.lookup signal with
  | some (_, text) => text
  | none =>
    if 34 ≤ signal && signal ≤ greatest then "Real-time signal " ++ toString (signal - 34)
    else "Unknown signal " ++ toString signal

/-- The signal with a name, which may be written in small letters. -/
def ofName? (text : String) : Option Signal :=
  (List.range (greatest + 1)).find? fun signal =>
    signal.name == text.toUpper && (signal.name.toNat?).isNone

/-- True for the signals that do nothing unless something was arranged for them. -/
def isHarmless (signal : Signal) : Bool :=
  [child, continue_, 23, 28].contains signal

/-- True for the signals that stop a process until it is told to go on. -/
def isStop (signal : Signal) : Bool :=
  [19, 20, 21, 22].contains signal

/-- True for the signals that nothing can be arranged for. -/
def isAbsolute (signal : Signal) : Bool :=
  signal = kill || signal = 19

end Signal

end Shell.Machine

/-! ## Calls -/

namespace Shell.Machine

/-- How a process has ended. -/
inductive Ending where
  | exited (code : Nat)
  | signaled (signal : Signal)
deriving Repr, DecidableEq, Inhabited

/-- What is to happen when a signal arrives. -/
inductive Disposition where
  | default
  | ignored
  /-- The signal is kept until the process asks for it. -/
  | kept
deriving Repr, DecidableEq, Inhabited

/-- What a file is to be opened for. -/
structure OpenMode where
  read : Bool := false
  write : Bool := false
  /-- Whatever is written goes to the end. -/
  append : Bool := false
  /-- Makes the file if it is not there. -/
  create : Bool := false
  /-- Throws away what is in the file. -/
  truncate : Bool := false
  /-- Refuses a file that is there already. -/
  fresh : Bool := false
deriving Repr, DecidableEq, Inhabited

/-- The kinds of files. -/
inductive FileSort where
  | plain
  | directory
  | link
  | device
  | pipe
deriving Repr, DecidableEq, Inhabited

/-- What there is to know about a file. -/
structure FileInfo where
  id : FileId
  sort : FileSort
  mode : Nat
  size : Nat
  modified : Nat
  /-- How many names the file has. -/
  names : Nat := 1
deriving Repr, DecidableEq, Inhabited

/-- How long to wait for a child. -/
inductive Patience where
  | untilEnded
  /-- Until a child has ended or a signal arrives. -/
  | untilSignal
  | none
deriving Repr, DecidableEq, Inhabited

/-- Something that a process asks for. -/
inductive Call where
  /-- Nothing; lets others have their turn. -/
  | rest
  /-- At most so many bytes. No bytes at all mean the end. -/
  | read (descriptor most : Nat)
  /-- The bytes up to a given one. -/
  | readUpTo (descriptor : Nat) (last : UInt8)
  | write (descriptor : Nat) (bytes : ByteArray)
  | openFile (path : String) (mode : OpenMode) (permissions : Nat)
  | close (descriptor : Nat)
  /-- Another descriptor, not below `least`, for what a descriptor stands for. Programs do not inherit it. -/
  | duplicate (descriptor least : Nat)
  /-- Makes `target` stand for what a descriptor stands for. -/
  | redirect (descriptor target : Nat)
  /-- Two descriptors, where the second one feeds the first. -/
  | makePipe
  | changeDirectory (path : String)
  | workingDirectory
  | inspect (path : String) (follow : Bool)
  | inspectOpen (descriptor : Nat)
  | list (path : String)
  | makeDirectory (path : String) (mode : Nat)
  | removeDirectory (path : String)
  | remove (path : String)
  | rename (path target : String)
  | linkFile (path target : String)
  | makeLink (path target : String)
  | readLink (path : String)
  | changeMode (path : String) (mode : Nat)
  /-- Sets the time at which a file was changed; now, if none is given. -/
  | stamp (path : String) (time : Option Nat)
  | truncate (path : String) (size : Nat)
  /-- Becomes another program. There is a reply only if that fails. -/
  | execute (path : String) (arguments environment : List String)
  /-- How a child has ended, that with a number or any. -/
  | await (child : Option Nat) (patience : Patience)
  | send (process : Int) (signal : Signal)
  | arrange (signal : Signal) (disposition : Disposition)
  | disposition (signal : Signal)
  /-- A signal that was kept, which is kept no longer. -/
  | takeSignal
  /-- A signal that was kept and still is. -/
  | pendingSignal
  | ownNumber
  | parentNumber
  /-- Waits so many microseconds. -/
  | pause (time : Nat)
  | clock
  /-- Sets the permissions that new files do not get, if a mask is given. -/
  | mask (mask : Option Nat)
  /-- Makes the process matter less by so much, and tells how little it matters. -/
  | priority (change : Int)

namespace Call

def Reply : Call → Type
  | rest => Unit
  | read _ _ => Except SystemError ByteArray
  | readUpTo _ _ => Except SystemError ByteArray
  | write _ _ => Except SystemError Unit
  | openFile _ _ _ => Except SystemError Nat
  | close _ => Except SystemError Unit
  | duplicate _ _ => Except SystemError Nat
  | redirect _ _ => Except SystemError Unit
  | makePipe => Nat × Nat
  | changeDirectory _ => Except SystemError Unit
  | workingDirectory => String
  | inspect _ _ => Except SystemError FileInfo
  | inspectOpen _ => Except SystemError FileInfo
  | list _ => Except SystemError (List String)
  | makeDirectory _ _ => Except SystemError Unit
  | removeDirectory _ => Except SystemError Unit
  | remove _ => Except SystemError Unit
  | rename _ _ => Except SystemError Unit
  | linkFile _ _ => Except SystemError Unit
  | makeLink _ _ => Except SystemError Unit
  | readLink _ => Except SystemError String
  | changeMode _ _ => Except SystemError Unit
  | stamp _ _ => Except SystemError Unit
  | truncate _ _ => Except SystemError Unit
  | execute _ _ _ => SystemError
  | await _ _ => Except SystemError (Option (Nat × Ending))
  | send _ _ => Except SystemError Unit
  | arrange _ _ => Unit
  | disposition _ => Disposition
  | takeSignal => Option Signal
  | pendingSignal => Option Signal
  | ownNumber => Nat
  | parentNumber => Nat
  | pause _ => Unit
  | clock => Nat
  | mask _ => Nat
  | priority _ => Int

end Call

/-- What a process does from some point on. -/
inductive Behaviour where
  | exit (code : Nat)
  | call (call : Call) (next : call.Reply → Behaviour)
  /-- Starts a child that has the same descriptors, and learns its number. -/
  | fork (child : Behaviour) (next : Nat → Behaviour)

/-- A part of what a process does, which has a result. -/
def Act (α : Type) : Type := (α → Behaviour) → Behaviour

namespace Act

instance : Monad Act where
  pure value := fun next => next value
  bind act continuation := fun next => act fun value => continuation value next

def ask (call : Call) : Act call.Reply := fun next => .call call next

/-- Ends the process. -/
def exit {α : Type} (code : Nat) : Act α := fun _ => .exit code

/-- Starts a child, which ends with the status it arrives at. -/
def fork (child : Act Nat) : Act Nat := fun next => .fork (child .exit) next

/-- The behaviour of a process that does nothing else and ends with the status it arrives at. -/
def behaviour (act : Act Nat) : Behaviour := act .exit

end Act

/-- Monads in which something can be asked for. -/
class Asks (m : Type → Type) where
  ask : (call : Call) → m call.Reply

instance : Asks Act := ⟨Act.ask⟩

instance {σ : Type} {m : Type → Type} [Monad m] [Asks m] : Asks (StateT σ m) :=
  ⟨fun call => StateT.lift (Asks.ask call)⟩

instance {ε : Type} {m : Type → Type} [Monad m] [Asks m] : Asks (ExceptT ε m) :=
  ⟨fun call => ExceptT.lift (Asks.ask call)⟩

end Shell.Machine
