import ChatMarkup.Cli.Program

namespace ChatMarkup.Cli

def fileError : IO.Error → FileError
  | .noFileOrDirectory .. => .notFound
  | .inappropriateType _ number description => .system number.toNat description
  | .permissionDenied _ number description => .system number.toNat description
  | .resourceExhausted _ number description => .system number.toNat description
  | .otherError number description => .system number.toNat description
  | e => .system 0 (toString e)

partial def readRest (stream : IO.FS.Stream) (bytes : ByteArray) : IO ByteArray := do
  let more ← stream.read 65536
  if more.isEmpty then return bytes
  readRest stream (bytes ++ more)

def readSource (source : Source) : IO (Except FileError (List UInt8)) := do
  try
    let bytes ← match source with
      | .input => readRest (← IO.getStdin) .empty
      | .file path => IO.FS.readBinFile (String.ofList path)
    return .ok bytes.toList
  catch e => return .error (fileError e)

def system : System IO where
  read := readSource
  write path text := do
    try
      IO.FS.writeFile (String.ofList path) (String.ofList text)
      return .ok ()
    catch e => return .error (fileError e)
  print text := IO.print (String.ofList text)
  tell text := IO.eprint (String.ofList text)

end ChatMarkup.Cli

open ChatMarkup.Cli in
def main (args : List String) : IO UInt32 := do
  let code ← finish system (program system (args.map String.toList))
  return code.toUInt32
