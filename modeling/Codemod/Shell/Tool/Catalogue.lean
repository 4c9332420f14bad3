import Codemod.Shell.Snippet.Program
import Codemod.Shell.Tool.Columns
import Codemod.Shell.Tool.Copying
import Codemod.Shell.Tool.Date
import Codemod.Shell.Tool.Difference.Basic
import Codemod.Shell.Tool.Digest
import Codemod.Shell.Tool.Dump
import Codemod.Shell.Tool.Edit.Basic
import Codemod.Shell.Tool.Encode
import Codemod.Shell.Tool.Exchange
import Codemod.Shell.Tool.Extent
import Codemod.Shell.Tool.Identity
import Codemod.Shell.Tool.Listing
import Codemod.Shell.Tool.Magnitude
import Codemod.Shell.Tool.Making
import Codemod.Shell.Tool.Neighbours
import Codemod.Shell.Tool.PathName
import Codemod.Shell.Tool.Print
import Codemod.Shell.Tool.Removal
import Codemod.Shell.Tool.Search
import Codemod.Shell.Tool.Sequence
import Codemod.Shell.Tool.Sort
import Codemod.Shell.Tool.Status
import Codemod.Shell.Tool.Test

/-!
# The tools by their names

- `Tool.builtIn?` — the tool that the shell itself has under a name
- `Tool.find?` — the program of a name
-/

namespace Codemod.Shell.Tool

/-- Does nothing and ends with a status. -/
def ending (status : Nat) (_arguments : List Octets) : Tool Nat := return status

/-- The tool that the shell itself has under a name. -/
def builtIn? (name : String) : Option (List Octets → Tool Nat) :=
  match name with
  | "echo" => some shellEcho
  | "printf" => some shellPrintf
  | "test" | "[" => some (shellTest name)
  | "true" => some (ending 0)
  | "false" => some (ending 1)
  | _ => none

/-- The program of a name. -/
def find? (name : String) : Option (List Octets → Tool Nat) :=
  match name with
  | "echo" => some echo
  | "printf" => some printf
  | "test" | "[" => some (test name)
  | "true" => some (ending 0)
  | "false" => some (ending 1)
  | "cat" => some cat
  | "tac" => some tac
  | "rev" => some rev
  | "nl" => some number
  | "tee" => some tee
  | "wc" => some count
  | "head" => some head
  | "tail" => some tail
  | "split" => some split
  | "dd" => some blocks
  | "sort" => some sort
  | "uniq" => some unique
  | "comm" => some common
  | "join" => some join
  | "tsort" => some topological
  | "expr" => some expression
  | "tr" => some exchange
  | "cut" => some cut
  | "paste" => some paste
  | "fold" => some fold
  | "expand" => some expand
  | "unexpand" => some unexpand
  | "seq" => some sequence
  | "yes" => some affirm
  | "factor" => some factors
  | "numfmt" => some magnitudes
  | "od" => some dump
  | "base64" => some base64
  | "base32" => some base32
  | "basenc" => some anyBase
  | "cksum" => some anyDigest
  | "sum" => some sums
  | "md5sum" => some (digests .md5)
  | "sha1sum" => some (digests .sha1)
  | "sha224sum" => some (digests (.sha2 224))
  | "sha256sum" => some (digests (.sha2 256))
  | "sha384sum" => some (digests (.sha2 384))
  | "sha512sum" => some (digests (.sha2 512))
  | "b2sum" => some (digests .blake2b)
  | "date" => some date
  | "cmp" => some Tool.compare
  | "diff" => some difference
  | "basename" => some baseName
  | "dirname" => some directoryName
  | "realpath" => some realPath
  | "readlink" => some readLink
  | "pathchk" => some checkPaths
  | "rm" => some remove
  | "rmdir" => some removeDirectory
  | "unlink" => some unlink
  | "mkdir" => some makeDirectory
  | "touch" => some touch
  | "mktemp" => some makeScratch
  | "truncate" => some resize
  | "chmod" => some changeMode
  | "chown" => some (changeOwner "user")
  | "chgrp" => some (changeOwner "group")
  | "ls" => some (list .single .literal)
  | "dir" => some (list .down .escaped)
  | "vdir" => some (list .long .escaped)
  | "stat" => some status
  | "du" => some usage
  | "cp" => some copy
  | "install" => some install
  | "mv" => some move
  | "ln" => some link
  | "id" => some identity
  | "groups" => some groups
  | "whoami" => some userName
  | "logname" => some loginName
  | "tty" => some terminal
  | "uname" => some systemName
  | "arch" => some (saying "x86_64")
  | "nproc" => some processors
  | "hostname" => some (saying "localhost")
  | "hostid" => some (saying "007f0100")
  | "sync" => some synchronise
  | "printenv" => some printVariables
  | "pwd" => some printPlace
  | "getconf" => some limits
  | "who" => some nobodyHere
  | "users" => some nobodyHere
  | "shuf" => some shuffle
  | "link" => some linkOnce
  | "grep" => some (search .basic)
  | "egrep" => some (search .extended)
  | "fgrep" => some (search .fixed)
  | "rgrep" => some fun arguments => search .basic (['-', 'r'] :: arguments)
  | "sed" => some edit
  | "node" | "nodejs" => some snippet
  | _ => none

end Codemod.Shell.Tool
