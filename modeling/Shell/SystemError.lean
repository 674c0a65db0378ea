/-! # Errors of the system

The ways in which a system refuses what it is asked to do, with the number and the text that stand for each.
-/

namespace Shell

/-- Why a system does not do what it is asked to do. -/
inductive SystemError where
  | notPermitted
  | missing
  | noProcess
  | interrupted
  | noDevice
  | argumentsTooLong
  /-- A file that is to be executed holds no program. -/
  | notAProgram
  | badDescriptor
  | noChildren
  | denied
  | alreadyExists
  /-- Something on the way is not a directory. -/
  | notADirectory
  | isDirectory
  | invalid
  | notATerminal
  | noSpace
  | notSeekable
  | brokenPipe
  | nameTooLong
  | notEmpty
  /-- Links lead to links without end. -/
  | tooManyLinks
deriving Repr, DecidableEq, Inhabited

namespace SystemError

def number : SystemError → Nat
  | notPermitted => 1
  | missing => 2
  | noProcess => 3
  | interrupted => 4
  | noDevice => 6
  | argumentsTooLong => 7
  | notAProgram => 8
  | badDescriptor => 9
  | noChildren => 10
  | denied => 13
  | alreadyExists => 17
  | notADirectory => 20
  | isDirectory => 21
  | invalid => 22
  | notATerminal => 25
  | noSpace => 28
  | notSeekable => 29
  | brokenPipe => 32
  | nameTooLong => 36
  | notEmpty => 39
  | tooManyLinks => 40

def text : SystemError → String
  | notPermitted => "Operation not permitted"
  | missing => "No such file or directory"
  | noProcess => "No such process"
  | interrupted => "Interrupted system call"
  | noDevice => "No such device or address"
  | argumentsTooLong => "Argument list too long"
  | notAProgram => "Exec format error"
  | badDescriptor => "Bad file descriptor"
  | noChildren => "No child processes"
  | denied => "Permission denied"
  | alreadyExists => "File exists"
  | notADirectory => "Not a directory"
  | isDirectory => "Is a directory"
  | invalid => "Invalid argument"
  | notATerminal => "Inappropriate ioctl for device"
  | noSpace => "No space left on device"
  | notSeekable => "Illegal seek"
  | brokenPipe => "Broken pipe"
  | nameTooLong => "File name too long"
  | notEmpty => "Directory not empty"
  | tooManyLinks => "Too many levels of symbolic links"

def message (error : SystemError) : String :=
  error.text ++ " (os error " ++ toString error.number ++ ")"

end SystemError

end Shell

/-! ## Reading files

The ways in which a path leads to nothing that could be read as text.
-/

namespace Shell

/-- Why a file cannot be read as text. -/
inductive ReadError where
  | system (cause : SystemError)
  /-- Its bytes are not UTF-8. -/
  | notText
  /-- Its name has a zero byte in it. -/
  | badName
deriving Repr, DecidableEq, Inhabited

namespace ReadError

def message : ReadError → String
  | system cause => cause.message
  | notText => "stream did not contain valid UTF-8"
  | badName => "file name contained an unexpected NUL byte"

end ReadError

end Shell
