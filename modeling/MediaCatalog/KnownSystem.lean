import MediaCatalog.MediaType
import MediaCatalog.Text.Lowercase

set_option autoImplicit false

namespace MediaCatalog

inductive KnownSystem where
  | nes | snes | n64 | gameBoy | gba | ds | masterSystem | genesis | saturn | dreamcast | gameGear
  | ps1 | ps2 | psp | arcade | dos | tvEpisode | movie | musicTrack | picture | pcApplication
  deriving DecidableEq, Repr, Inhabited

namespace KnownSystem

/-- In registry order, which decides between systems that answer to one name. -/
def all : List KnownSystem :=
  [.nes, .snes, .n64, .gameBoy, .gba, .ds, .masterSystem, .genesis, .saturn, .dreamcast,
    .gameGear, .ps1, .ps2, .psp, .arcade, .dos, .tvEpisode, .movie, .musicTrack, .picture,
    .pcApplication]

def label : KnownSystem → String
  | nes => "Nes"
  | snes => "Snes"
  | n64 => "N64"
  | gameBoy => "GameBoy"
  | gba => "Gba"
  | ds => "Ds"
  | masterSystem => "MasterSystem"
  | genesis => "Genesis"
  | saturn => "Saturn"
  | dreamcast => "Dreamcast"
  | gameGear => "GameGear"
  | ps1 => "Ps1"
  | ps2 => "Ps2"
  | psp => "Psp"
  | arcade => "Arcade"
  | dos => "Dos"
  | tvEpisode => "TvEpisode"
  | movie => "Movie"
  | musicTrack => "MusicTrack"
  | picture => "Picture"
  | pcApplication => "PcApplication"

def code : KnownSystem → String
  | nes => "NES"
  | snes => "SNES"
  | n64 => "Nintendo64"
  | gameBoy => "Gameboy"
  | gba => "GBA"
  | ds => "NDS"
  | masterSystem => "MasterSystem"
  | genesis => "Genesis"
  | saturn => "Saturn"
  | dreamcast => "Dreamcast"
  | gameGear => "GameGear"
  | ps1 => "PSX"
  | ps2 => "PS2"
  | psp => "PSP"
  | arcade => "Arcade"
  | dos => "DOS"
  | tvEpisode => "TVEpisode"
  | movie => "Movie"
  | musicTrack => "MusicTrack"
  | picture => "Image"
  | pcApplication => "PC"

def displayName : KnownSystem → String
  | nes => "Nintendo Entertainment System"
  | snes => "Super Nintendo Entertainment System"
  | n64 => "Nintendo 64"
  | gameBoy => "Game Boy"
  | gba => "Game Boy Advance"
  | ds => "Nintendo DS"
  | masterSystem => "Sega Master System"
  | genesis => "Sega Genesis / Mega Drive"
  | saturn => "Sega Saturn"
  | dreamcast => "Sega Dreamcast"
  | gameGear => "Sega Game Gear"
  | ps1 => "Sony PlayStation"
  | ps2 => "Sony PlayStation 2"
  | psp => "Sony PlayStation Portable"
  | arcade => "Arcade"
  | dos => "MS-DOS"
  | tvEpisode => "TV Episode"
  | movie => "Movie"
  | musicTrack => "Music Track"
  | picture => "Image"
  | pcApplication => "PC Application"

def mediaType : KnownSystem → MediaType
  | tvEpisode => .tvShow
  | movie => .movie
  | musicTrack => .music
  | picture => .image
  | pcApplication => .application
  | _ => .game

def aliases : KnownSystem → List String
  | nes => ["famicom", "fc"]
  | snes => ["sfc", "superfamicom", "supernintendo"]
  | n64 => ["n64"]
  | gameBoy => ["gb"]
  | gba => ["gameboyadvance"]
  | ds => ["ds", "nintendods"]
  | masterSystem => ["sms"]
  | genesis => ["megadrive", "md"]
  | saturn => ["segasaturn"]
  | dreamcast => ["dc"]
  | gameGear => ["gg"]
  | ps1 => ["ps1", "playstation"]
  | ps2 => ["playstation2"]
  | psp => ["playstationportable"]
  | arcade => ["mame"]
  | dos => ["msdos"]
  | tvEpisode => ["tv", "tvshow"]
  | movie => ["film"]
  | musicTrack => ["music"]
  | picture => ["picture", "photo"]
  | pcApplication => ["windows"]

def ofCode? (text : String) : Option KnownSystem :=
  all.find? (·.code == text)

def ofLabel? (text : String) : Option KnownSystem :=
  all.find? (·.label == text)

def parse? (text : String) : Option KnownSystem :=
  all.find? fun system =>
    Text.lowercase system.code == Text.tidy text || system.aliases.contains (Text.tidy text)

theorem ofCode?_code (system : KnownSystem) : ofCode? system.code = some system := by
  cases system <;> rfl

end KnownSystem

structure UnknownSystem where
  text : String

def UnknownSystem.message (error : UnknownSystem) : String :=
  "unknown system: '" ++ error.text ++ "'"

namespace MediaType

def ofSystemCode (code : String) : MediaType :=
  match KnownSystem.ofCode? code with
  | some system => system.mediaType
  | none => .game

end MediaType

end MediaCatalog
