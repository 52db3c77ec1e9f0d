import StillMotion.Files.Path

/-!
# Media types

What kind of content a file has, judged by the extension of its name alone.
-/

namespace StillMotion.MediaType

open StillMotion.Text

def table : List (String × List String) :=
  [("application/javascript", ["js", "mjs"]),
   ("application/json", ["json"]),
   ("application/manifest+json", ["webmanifest"]),
   ("application/msword", ["doc", "dot", "wiz"]),
   ("application/n-quads", ["nq"]),
   ("application/n-triples", ["nt"]),
   ("application/octet-stream", ["bin", "a", "dll", "exe", "o", "obj", "so"]),
   ("application/oda", ["oda"]),
   ("application/pdf", ["pdf"]),
   ("application/pkcs7-mime", ["p7c"]),
   ("application/postscript", ["ps", "ai", "eps"]),
   ("application/trig", ["trig"]),
   ("application/vnd.apple.mpegurl", ["m3u", "m3u8"]),
   ("application/vnd.ms-excel", ["xls", "xlb"]),
   ("application/vnd.ms-powerpoint", ["ppt", "pot", "ppa", "pps", "pwz"]),
   ("application/wasm", ["wasm"]),
   ("application/x-bcpio", ["bcpio"]),
   ("application/x-cpio", ["cpio"]),
   ("application/x-csh", ["csh"]),
   ("application/x-dvi", ["dvi"]),
   ("application/x-gtar", ["gtar"]),
   ("application/x-hdf", ["hdf"]),
   ("application/x-hdf5", ["h5"]),
   ("application/x-latex", ["latex"]),
   ("application/x-mif", ["mif"]),
   ("application/x-netcdf", ["cdf", "nc"]),
   ("application/x-pkcs12", ["p12", "pfx"]),
   ("application/x-pn-realaudio", ["ram"]),
   ("application/x-python-code", ["pyc", "pyo"]),
   ("application/x-sh", ["sh"]),
   ("application/x-shar", ["shar"]),
   ("application/x-shockwave-flash", ["swf"]),
   ("application/x-sv4cpio", ["sv4cpio"]),
   ("application/x-sv4crc", ["sv4crc"]),
   ("application/x-tar", ["tar"]),
   ("application/x-tcl", ["tcl"]),
   ("application/x-tex", ["tex"]),
   ("application/x-texinfo", ["texi", "texinfo"]),
   ("application/x-troff", ["roff", "t", "tr"]),
   ("application/x-troff-man", ["man"]),
   ("application/x-troff-me", ["me"]),
   ("application/x-troff-ms", ["ms"]),
   ("application/x-ustar", ["ustar"]),
   ("application/x-wais-source", ["src"]),
   ("application/xml", ["xsl", "rdf", "wsdl", "xpdl"]),
   ("application/zip", ["zip"]),
   ("audio/3gpp", ["3gp", "3gpp"]),
   ("audio/3gpp2", ["3g2", "3gpp2"]),
   ("audio/aac", ["aac", "adts", "loas", "ass"]),
   ("audio/basic", ["au", "snd"]),
   ("audio/mpeg", ["mp3", "mp2"]),
   ("audio/opus", ["opus"]),
   ("audio/x-aiff", ["aif", "aifc", "aiff"]),
   ("audio/x-pn-realaudio", ["ra"]),
   ("audio/x-wav", ["wav"]),
   ("image/avif", ["avif"]),
   ("image/bmp", ["bmp"]),
   ("image/gif", ["gif"]),
   ("image/ief", ["ief"]),
   ("image/jpeg", ["jpg", "jpe", "jpeg"]),
   ("image/heic", ["heic"]),
   ("image/heif", ["heif"]),
   ("image/png", ["png"]),
   ("image/svg+xml", ["svg"]),
   ("image/tiff", ["tiff", "tif"]),
   ("image/vnd.microsoft.icon", ["ico"]),
   ("image/x-cmu-raster", ["ras"]),
   ("image/x-portable-anymap", ["pnm"]),
   ("image/x-portable-bitmap", ["pbm"]),
   ("image/x-portable-graymap", ["pgm"]),
   ("image/x-portable-pixmap", ["ppm"]),
   ("image/x-rgb", ["rgb"]),
   ("image/x-xbitmap", ["xbm"]),
   ("image/x-xpixmap", ["xpm"]),
   ("image/x-xwindowdump", ["xwd"]),
   ("message/rfc822", ["eml", "mht", "mhtml", "nws"]),
   ("text/css", ["css"]),
   ("text/csv", ["csv"]),
   ("text/html", ["html", "htm"]),
   ("text/n3", ["n3"]),
   ("text/plain", ["txt", "bat", "c", "h", "ksh", "pl", "srt"]),
   ("text/richtext", ["rtx"]),
   ("text/tab-separated-values", ["tsv"]),
   ("text/vtt", ["vtt"]),
   ("text/x-python", ["py"]),
   ("text/x-setext", ["etx"]),
   ("text/x-sgml", ["sgm", "sgml"]),
   ("text/x-vcard", ["vcf"]),
   ("text/xml", ["xml"]),
   ("video/mp4", ["mp4"]),
   ("video/mpeg", ["mpeg", "m1v", "mpa", "mpe", "mpg"]),
   ("video/quicktime", ["mov", "qt"]),
   ("video/webm", ["webm"]),
   ("video/x-msvideo", ["avi"]),
   ("video/x-sgi-movie", ["movie"])]

/-- Extensions that stand for two, the inner one first. -/
def contractions : List (String × List Char) :=
  [("svgz", ".svg.gz".toList), ("tgz", ".tar.gz".toList), ("taz", ".tar.gz".toList),
   ("tz", ".tar.gz".toList), ("tbz2", ".tar.bz2".toList), ("txz", ".tar.xz".toList)]

def compressions : List String := ["gz", "Z", "bz2", "xz", "br"]

def folded (cs : List Char) : String := String.ofList (cs.flatMap foldChar)

/-- Cut a name before its last dot.  Dots at its start begin no extension. -/
def cutExtension? (name : List Char) : Option (List Char × List Char) :=
  let start := name.takeWhile (· == '.')
  let rest := name.dropWhile (· == '.')
  (cut? '.' rest.reverse).map fun (reversed, before) => (start ++ before.reverse, reversed.reverse)

def expand (name : List Char) : List Char :=
  match cutExtension? name with
  | none => name
  | some (before, ext) =>
      match contractions.find? fun entry => entry.1 == folded ext with
      | some (_, written) => before ++ written
      | none => name

def ofExtension? (ext : List Char) : Option String :=
  (table.find? fun entry => entry.2.contains (folded ext)).map (·.1)

def withoutScheme (name : List Char) : List Char × List Char :=
  match cut? ':' name with
  | some (scheme, rest) => if scheme.isEmpty then ([], name) else (scheme, rest)
  | none => ([], name)

def declared? (data : List Char) : Option String :=
  (cut? ',' data).map fun (head, _) =>
    let declaration := match cut? ';' head with
      | some (before, _) => before
      | none => head
    if declaration.contains '=' || !declaration.contains '/' then "text/plain"
    else String.ofList declaration

/-- The media type of a file of this name; the extension of a compression is skipped. -/
def ofName? (name : String) : Option String :=
  let (scheme, rest) := withoutScheme name.toList
  if folded scheme == "data" then declared? rest
  else match cutExtension? (expand rest) with
    | none => none
    | some (before, ext) =>
        if compressions.contains (String.ofList ext) then
          match cutExtension? before with
          | some (_, inner) => ofExtension? inner
          | none => none
        else ofExtension? ext

end StillMotion.MediaType
