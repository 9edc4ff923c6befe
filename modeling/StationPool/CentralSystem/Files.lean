import StationPool.Connection.Dialing

/-!
# TLS material

What comes of reading the files of the TLS settings: the certificate bundle first, then the client
certificate and its key if both are named. The first file that cannot be read is the error. What the
files hold is not looked at.
-/

namespace StationPool

/-- The files that the TLS settings name, in the order they are read, with what each is. -/
def Tls.files (t : Tls) : List (String × String) :=
  if !t.enabled then []
  else
    (t.caCert.map fun path => ("CA bundle", path)).toList ++
      match t.clientCert, t.clientKey with
      | some cert, some key => [("client certificate", cert), ("client key", key)]
      | _, _ => []

/-- Reads the TLS material, with what reading a path gives. -/
def Tls.load (t : Tls) (read : String → Except IoError Unit) : Except ConnectionError Unit :=
  t.files.forM fun (what, path) =>
    match read path with
    | .ok () => .ok ()
    | .error e => .error (.tls ("reading " ++ what ++ " " ++ path ++ ": " ++ e.message))

/-- A file system of directories only. -/
def readAmong (directories : List String) (path : String) : Except IoError Unit :=
  if path.toList.contains '\x00' then .error (.other "file name contained an unexpected NUL byte")
  else if directories.contains path then .error .isDirectory
  else .error .noSuchFile

end StationPool
