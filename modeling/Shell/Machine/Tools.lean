import Shell.Machine.Load
import Shell.Machine.Script.Shell
import Shell.Machine.Tools.Awk
import Shell.Machine.Tools.Batch
import Shell.Machine.Tools.Calculate
import Shell.Machine.Tools.Compare
import Shell.Machine.Tools.Describe
import Shell.Machine.Tools.Digests
import Shell.Machine.Tools.Edit.Run
import Shell.Machine.Tools.Encode
import Shell.Machine.Tools.Environment
import Shell.Machine.Tools.Files
import Shell.Machine.Tools.Find
import Shell.Machine.Tools.Listing
import Shell.Machine.Tools.Neighbours
import Shell.Machine.Tools.Numbering
import Shell.Machine.Tools.Numbers
import Shell.Machine.Tools.Perl
import Shell.Machine.Tools.Pieces
import Shell.Machine.Tools.Reverse
import Shell.Machine.Tools.Running
import Shell.Machine.Tools.Search
import Shell.Machine.Tools.Sort
import Shell.Machine.Tools.Surroundings
import Shell.Machine.Tools.Transfer
import Shell.Machine.Tools.Width

/-! # The programs of a machine

Which programs a machine has, by their names.
-/

namespace Shell.Machine

def tools : List (String × ToolM Unit) := [
  ("[", ToolM.bracket), ("arch", ToolM.constant "x86_64\n"), ("awk", ToolM.awk),
  ("b2sum", ToolM.digest (.blake2b 64)), ("base32", ToolM.base32), ("base64", ToolM.base64),
  ("basename", ToolM.basename), ("basenc", ToolM.basenc), ("cat", ToolM.cat), ("chgrp", ToolM.chown true),
  ("chmod", ToolM.chmod), ("chown", ToolM.chown false), ("cksum", ToolM.cksum), ("cmp", ToolM.cmp),
  ("comm", ToolM.comm), ("cp", ToolM.cp), ("cut", ToolM.cut), ("date", ToolM.date), ("dd", ToolM.dd),
  ("diff", ToolM.diff), ("dirname", ToolM.dirname), ("du", ToolM.du), ("echo", ToolM.echo),
  ("egrep", ToolM.grep true false), ("env", ToolM.env), ("expand", ToolM.expand), ("expr", ToolM.expr),
  ("factor", ToolM.factor), ("false", ToolM.status 1), ("fgrep", ToolM.grep false true), ("find", ToolM.find),
  ("fold", ToolM.fold), ("grep", ToolM.grep false false), ("groups", ToolM.groups), ("head", ToolM.head),
  ("hostname", ToolM.hostname), ("id", ToolM.identity), ("install", ToolM.install), ("join", ToolM.join),
  ("kill", ToolM.kill), ("link", ToolM.link), ("ln", ToolM.ln), ("logname", ToolM.logname), ("ls", ToolM.ls),
  ("mawk", ToolM.awk), ("md5sum", ToolM.digest .md5), ("mkdir", ToolM.mkdir), ("mktemp", ToolM.mktemp),
  ("mv", ToolM.mv), ("nice", ToolM.nice), ("nl", ToolM.nl), ("nohup", ToolM.nohup), ("nproc", ToolM.nproc),
  ("numfmt", ToolM.numfmt), ("od", ToolM.od), ("paste", ToolM.paste), ("perl", ToolM.perl),
  ("printenv", ToolM.printenv), ("printf", ToolM.printf), ("pwd", ToolM.pwd), ("readlink", ToolM.readlink),
  ("realpath", ToolM.realpath), ("rev", ToolM.rev), ("rm", ToolM.rm), ("rmdir", ToolM.rmdir),
  ("sed", ToolM.sed), ("seq", ToolM.seq), ("setsid", ToolM.setsid), ("sha1sum", ToolM.digest .sha1),
  ("sha224sum", ToolM.digest .sha224), ("sha256sum", ToolM.digest .sha256),
  ("sha384sum", ToolM.digest .sha384), ("sha512sum", ToolM.digest .sha512), ("shuf", ToolM.shuf),
  ("sleep", ToolM.sleep), ("sort", ToolM.sort), ("split", ToolM.split), ("stat", ToolM.stat),
  ("stdbuf", ToolM.stdbuf), ("sum", ToolM.sum), ("sync", ToolM.sync), ("tac", ToolM.tac),
  ("tail", ToolM.tail), ("tee", ToolM.tee), ("test", ToolM.test), ("timeout", ToolM.timeout),
  ("touch", ToolM.touch), ("tr", ToolM.tr), ("true", ToolM.status 0), ("truncate", ToolM.truncate),
  ("tsort", ToolM.tsort), ("tty", ToolM.tty), ("uname", ToolM.uname), ("unexpand", ToolM.unexpand),
  ("uniq", ToolM.uniq), ("unlink", ToolM.unlink), ("users", ToolM.constant ""), ("wc", ToolM.wc),
  ("which", ToolM.which), ("who", ToolM.constant ""), ("whoami", ToolM.whoami), ("xargs", ToolM.xargs),
  ("yes", ToolM.yes)]

def scriptPrograms : List String := ["bash", "dash", "sh"]

def programNames : List String :=
  scriptPrograms ++ tools.map (·.1)

/-- The programs by their names. What is not known ends at once. -/
def programs : Programs := fun name arguments environment =>
  if name = "bash" then Script.extendedShell arguments environment
  else if scriptPrograms.contains name then Script.shell arguments environment
  else
    match tools.lookup name with
    | some body => Tool.behaviour body arguments environment
    | none => .exit 127

end Shell.Machine
