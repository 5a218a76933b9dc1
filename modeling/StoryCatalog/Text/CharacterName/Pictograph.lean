import StoryCatalog.Text.CharacterName.Block

/-!
# Names of characters: pictograph

The names of tiles, pictographs and tags.
-/

namespace StoryCatalog

/-- The names of tiles, pictographs and tags. -/
def pictographNames : List NameBlock := [
  ⟨0x1F000, "MAHJONG TILE", [
    "EAST WIND,SOUTH WIND,WEST WIND,NORTH WIND,RED DRAGON,GREEN DRAGON,WHITE DRAGON",
    "ONE OF CHARACTERS,TWO OF CHARACTERS,THREE OF CHARACTERS,FOUR OF CHARACTERS",
    "FIVE OF CHARACTERS,SIX OF CHARACTERS,SEVEN OF CHARACTERS,EIGHT OF CHARACTERS",
    "NINE OF CHARACTERS,ONE OF BAMBOOS,TWO OF BAMBOOS,THREE OF BAMBOOS,FOUR OF BAMBOOS",
    "FIVE OF BAMBOOS,SIX OF BAMBOOS,SEVEN OF BAMBOOS,EIGHT OF BAMBOOS,NINE OF BAMBOOS",
    "ONE OF CIRCLES,TWO OF CIRCLES,THREE OF CIRCLES,FOUR OF CIRCLES,FIVE OF CIRCLES",
    "SIX OF CIRCLES,SEVEN OF CIRCLES,EIGHT OF CIRCLES,NINE OF CIRCLES,PLUM,ORCHID,BAMBOO",
    "CHRYSANTHEMUM,SPRING,SUMMER,AUTUMN,WINTER,JOKER,BACK"]⟩,
  ⟨0x1F030, "DOMINO TILE", [
    "HORIZONTAL BACK,HORIZONTAL-00-00,HORIZONTAL-00-01,HORIZONTAL-00-02,HORIZONTAL-00-03",
    "HORIZONTAL-00-04,HORIZONTAL-00-05,HORIZONTAL-00-06,HORIZONTAL-01-00,HORIZONTAL-01-01",
    "HORIZONTAL-01-02,HORIZONTAL-01-03,HORIZONTAL-01-04,HORIZONTAL-01-05,HORIZONTAL-01-06",
    "HORIZONTAL-02-00,HORIZONTAL-02-01,HORIZONTAL-02-02,HORIZONTAL-02-03,HORIZONTAL-02-04",
    "HORIZONTAL-02-05,HORIZONTAL-02-06,HORIZONTAL-03-00,HORIZONTAL-03-01,HORIZONTAL-03-02",
    "HORIZONTAL-03-03,HORIZONTAL-03-04,HORIZONTAL-03-05,HORIZONTAL-03-06,HORIZONTAL-04-00",
    "HORIZONTAL-04-01,HORIZONTAL-04-02,HORIZONTAL-04-03,HORIZONTAL-04-04,HORIZONTAL-04-05",
    "HORIZONTAL-04-06,HORIZONTAL-05-00,HORIZONTAL-05-01,HORIZONTAL-05-02,HORIZONTAL-05-03",
    "HORIZONTAL-05-04,HORIZONTAL-05-05,HORIZONTAL-05-06,HORIZONTAL-06-00,HORIZONTAL-06-01",
    "HORIZONTAL-06-02,HORIZONTAL-06-03,HORIZONTAL-06-04,HORIZONTAL-06-05,HORIZONTAL-06-06",
    "VERTICAL BACK,VERTICAL-00-00,VERTICAL-00-01,VERTICAL-00-02,VERTICAL-00-03,VERTICAL-00-04",
    "VERTICAL-00-05,VERTICAL-00-06,VERTICAL-01-00,VERTICAL-01-01,VERTICAL-01-02",
    "VERTICAL-01-03,VERTICAL-01-04,VERTICAL-01-05,VERTICAL-01-06,VERTICAL-02-00",
    "VERTICAL-02-01,VERTICAL-02-02,VERTICAL-02-03,VERTICAL-02-04,VERTICAL-02-05",
    "VERTICAL-02-06,VERTICAL-03-00,VERTICAL-03-01,VERTICAL-03-02,VERTICAL-03-03",
    "VERTICAL-03-04,VERTICAL-03-05,VERTICAL-03-06,VERTICAL-04-00,VERTICAL-04-01",
    "VERTICAL-04-02,VERTICAL-04-03,VERTICAL-04-04,VERTICAL-04-05,VERTICAL-04-06",
    "VERTICAL-05-00,VERTICAL-05-01,VERTICAL-05-02,VERTICAL-05-03,VERTICAL-05-04",
    "VERTICAL-05-05,VERTICAL-05-06,VERTICAL-06-00,VERTICAL-06-01,VERTICAL-06-02",
    "VERTICAL-06-03,VERTICAL-06-04,VERTICAL-06-05,VERTICAL-06-06"]⟩,
  ⟨0x1F0A0, "PLAYING CARD", [
    "BACK,ACE OF SPADES,TWO OF SPADES,THREE OF SPADES,FOUR OF SPADES,FIVE OF SPADES",
    "SIX OF SPADES,SEVEN OF SPADES,EIGHT OF SPADES,NINE OF SPADES,TEN OF SPADES",
    "JACK OF SPADES,KNIGHT OF SPADES,QUEEN OF SPADES,KING OF SPADES,,,ACE OF HEARTS",
    "TWO OF HEARTS,THREE OF HEARTS,FOUR OF HEARTS,FIVE OF HEARTS,SIX OF HEARTS",
    "SEVEN OF HEARTS,EIGHT OF HEARTS,NINE OF HEARTS,TEN OF HEARTS,JACK OF HEARTS",
    "KNIGHT OF HEARTS,QUEEN OF HEARTS,KING OF HEARTS,RED JOKER,,ACE OF DIAMONDS",
    "TWO OF DIAMONDS,THREE OF DIAMONDS,FOUR OF DIAMONDS,FIVE OF DIAMONDS,SIX OF DIAMONDS",
    "SEVEN OF DIAMONDS,EIGHT OF DIAMONDS,NINE OF DIAMONDS,TEN OF DIAMONDS,JACK OF DIAMONDS",
    "KNIGHT OF DIAMONDS,QUEEN OF DIAMONDS,KING OF DIAMONDS,BLACK JOKER,,ACE OF CLUBS",
    "TWO OF CLUBS,THREE OF CLUBS,FOUR OF CLUBS,FIVE OF CLUBS,SIX OF CLUBS,SEVEN OF CLUBS",
    "EIGHT OF CLUBS,NINE OF CLUBS,TEN OF CLUBS,JACK OF CLUBS,KNIGHT OF CLUBS,QUEEN OF CLUBS",
    "KING OF CLUBS,WHITE JOKER,FOOL,TRUMP-1,TRUMP-2,TRUMP-3,TRUMP-4,TRUMP-5,TRUMP-6,TRUMP-7",
    "TRUMP-8,TRUMP-9,TRUMP-10,TRUMP-11,TRUMP-12,TRUMP-13,TRUMP-14,TRUMP-15,TRUMP-16,TRUMP-17",
    "TRUMP-18,TRUMP-19,TRUMP-20,TRUMP-21"]⟩,
  ⟨0x1F100, "DIGIT", [
    "ZERO FULL STOP,ZERO COMMA,ONE COMMA,TWO COMMA,THREE COMMA,FOUR COMMA,FIVE COMMA",
    "SIX COMMA,SEVEN COMMA,EIGHT COMMA,NINE COMMA"]⟩,
  ⟨0x1F10B, "", [
    "DINGBAT CIRCLED SANS-SERIF DIGIT ZERO,DINGBAT NEGATIVE CIRCLED SANS-SERIF DIGIT ZERO",
    "CIRCLED ZERO WITH SLASH,CIRCLED ANTICLOCKWISE ARROW",
    "CIRCLED DOLLAR SIGN WITH OVERLAID BACKSLASH"]⟩,
  ⟨0x1F110, "PARENTHESIZED LATIN CAPITAL LETTER", [
    "A,B,C,D,E,F,G,H,I,J,K,L,M,N,O,P,Q,R,S,T,U,V,W,X,Y,Z"]⟩,
  ⟨0x1F12A, "", [
    "TORTOISE SHELL BRACKETED LATIN CAPITAL LETTER S,CIRCLED ITALIC LATIN CAPITAL LETTER C",
    "CIRCLED ITALIC LATIN CAPITAL LETTER R,CIRCLED CD,CIRCLED WZ,COPYLEFT SYMBOL"]⟩,
  ⟨0x1F130, "SQUARED LATIN CAPITAL LETTER", [
    "A,B,C,D,E,F,G,H,I,J,K,L,M,N,O,P,Q,R,S,T,U,V,W,X,Y,Z"]⟩,
  ⟨0x1F14A, "SQUARED", ["HV,MV,SD,SS,PPV,WC"]⟩,
  ⟨0x1F150, "NEGATIVE CIRCLED LATIN CAPITAL LETTER", [
    "A,B,C,D,E,F,G,H,I,J,K,L,M,N,O,P,Q,R,S,T,U,V,W,X,Y,Z"]⟩,
  ⟨0x1F16A, "", [
    "RAISED MC SIGN,RAISED MD SIGN,RAISED MR SIGN,CIRCLED CC",
    "CIRCLED C WITH OVERLAID BACKSLASH,CIRCLED HUMAN FIGURE"]⟩,
  ⟨0x1F170, "NEGATIVE SQUARED LATIN CAPITAL LETTER", [
    "A,B,C,D,E,F,G,H,I,J,K,L,M,N,O,P,Q,R,S,T,U,V,W,X,Y,Z"]⟩,
  ⟨0x1F18A, "", [
    "CROSSED NEGATIVE SQUARED LATIN CAPITAL LETTER P,NEGATIVE SQUARED IC,NEGATIVE SQUARED PA",
    "NEGATIVE SQUARED SA,NEGATIVE SQUARED AB,NEGATIVE SQUARED WC,SQUARE DJ"]⟩,
  ⟨0x1F191, "SQUARED", [
    "CL,COOL,FREE,ID,NEW,NG,OK,SOS,UP WITH EXCLAMATION MARK,VS,THREE D,SECOND SCREEN,TWO K",
    "FOUR K,EIGHT K,FIVE POINT ONE,SEVEN POINT ONE,TWENTY-TWO POINT TWO,SIXTY P",
    "ONE HUNDRED TWENTY P,LATIN SMALL LETTER D,HC,HDR,HI-RES,LOSSLESS,SHV,UHD,VOD"]⟩,
  ⟨0x1F1AD, "MASK WORK", ["SYMBOL"]⟩,
  ⟨0x1F1E6, "REGIONAL INDICATOR SYMBOL LETTER", [
    "A,B,C,D,E,F,G,H,I,J,K,L,M,N,O,P,Q,R,S,T,U,V,W,X,Y,Z"]⟩,
  ⟨0x1F200, "", ["SQUARE HIRAGANA HOKA,SQUARED KATAKANA KOKO,SQUARED KATAKANA SA"]⟩,
  ⟨0x1F210, "SQUARED", [
    "CJK UNIFIED IDEOGRAPH-624B,CJK UNIFIED IDEOGRAPH-5B57,CJK UNIFIED IDEOGRAPH-53CC",
    "KATAKANA DE"]⟩,
  ⟨0x1F214, "SQUARED CJK UNIFIED", [
    "IDEOGRAPH-4E8C,IDEOGRAPH-591A,IDEOGRAPH-89E3,IDEOGRAPH-5929,IDEOGRAPH-4EA4",
    "IDEOGRAPH-6620,IDEOGRAPH-7121,IDEOGRAPH-6599,IDEOGRAPH-524D,IDEOGRAPH-5F8C",
    "IDEOGRAPH-518D,IDEOGRAPH-65B0,IDEOGRAPH-521D,IDEOGRAPH-7D42,IDEOGRAPH-751F",
    "IDEOGRAPH-8CA9,IDEOGRAPH-58F0,IDEOGRAPH-5439,IDEOGRAPH-6F14,IDEOGRAPH-6295",
    "IDEOGRAPH-6355,IDEOGRAPH-4E00,IDEOGRAPH-4E09,IDEOGRAPH-904A,IDEOGRAPH-5DE6",
    "IDEOGRAPH-4E2D,IDEOGRAPH-53F3,IDEOGRAPH-6307,IDEOGRAPH-8D70,IDEOGRAPH-6253",
    "IDEOGRAPH-7981,IDEOGRAPH-7A7A,IDEOGRAPH-5408,IDEOGRAPH-6E80,IDEOGRAPH-6709",
    "IDEOGRAPH-6708,IDEOGRAPH-7533,IDEOGRAPH-5272,IDEOGRAPH-55B6,IDEOGRAPH-914D"]⟩,
  ⟨0x1F240, "TORTOISE SHELL BRACKETED CJK UNIFIED", [
    "IDEOGRAPH-672C,IDEOGRAPH-4E09,IDEOGRAPH-4E8C,IDEOGRAPH-5B89,IDEOGRAPH-70B9",
    "IDEOGRAPH-6253,IDEOGRAPH-76D7,IDEOGRAPH-52DD,IDEOGRAPH-6557"]⟩,
  ⟨0x1F250, "CIRCLED IDEOGRAPH", ["ADVANTAGE,ACCEPT"]⟩,
  ⟨0x1F260, "ROUNDED SYMBOL FOR", ["FU,LU,SHOU,XI,SHUANGXI,CAI"]⟩,
  ⟨0x1F300, "", [
    "CYCLONE,FOGGY,CLOSED UMBRELLA,NIGHT WITH STARS,SUNRISE OVER MOUNTAINS,SUNRISE",
    "CITYSCAPE AT DUSK,SUNSET OVER BUILDINGS,RAINBOW,BRIDGE AT NIGHT,WATER WAVE,VOLCANO",
    "MILKY WAY,EARTH GLOBE EUROPE-AFRICA,EARTH GLOBE AMERICAS,EARTH GLOBE ASIA-AUSTRALIA",
    "GLOBE WITH MERIDIANS,NEW MOON SYMBOL,WAXING CRESCENT MOON SYMBOL",
    "FIRST QUARTER MOON SYMBOL,WAXING GIBBOUS MOON SYMBOL,FULL MOON SYMBOL",
    "WANING GIBBOUS MOON SYMBOL,LAST QUARTER MOON SYMBOL,WANING CRESCENT MOON SYMBOL",
    "CRESCENT MOON,NEW MOON WITH FACE,FIRST QUARTER MOON WITH FACE",
    "LAST QUARTER MOON WITH FACE,FULL MOON WITH FACE,SUN WITH FACE,GLOWING STAR,SHOOTING STAR",
    "THERMOMETER,BLACK DROPLET,WHITE SUN,WHITE SUN WITH SMALL CLOUD,WHITE SUN BEHIND CLOUD",
    "WHITE SUN BEHIND CLOUD WITH RAIN,CLOUD WITH RAIN,CLOUD WITH SNOW,CLOUD WITH LIGHTNING",
    "CLOUD WITH TORNADO,FOG,WIND BLOWING FACE,HOT DOG,TACO,BURRITO,CHESTNUT,SEEDLING",
    "EVERGREEN TREE,DECIDUOUS TREE,PALM TREE,CACTUS,HOT PEPPER,TULIP,CHERRY BLOSSOM,ROSE",
    "HIBISCUS,SUNFLOWER,BLOSSOM,EAR OF MAIZE,EAR OF RICE,HERB,FOUR LEAF CLOVER,MAPLE LEAF",
    "FALLEN LEAF,LEAF FLUTTERING IN WIND,MUSHROOM,TOMATO,AUBERGINE,GRAPES,MELON,WATERMELON",
    "TANGERINE,LEMON,BANANA,PINEAPPLE,RED APPLE,GREEN APPLE,PEAR,PEACH,CHERRIES,STRAWBERRY",
    "HAMBURGER,SLICE OF PIZZA,MEAT ON BONE,POULTRY LEG,RICE CRACKER,RICE BALL,COOKED RICE",
    "CURRY AND RICE,STEAMING BOWL,SPAGHETTI,BREAD,FRENCH FRIES,ROASTED SWEET POTATO,DANGO",
    "ODEN,SUSHI,FRIED SHRIMP,FISH CAKE WITH SWIRL DESIGN,SOFT ICE CREAM,SHAVED ICE,ICE CREAM",
    "DOUGHNUT,COOKIE,CHOCOLATE BAR,CANDY,LOLLIPOP,CUSTARD,HONEY POT,SHORTCAKE,BENTO BOX",
    "POT OF FOOD,COOKING,FORK AND KNIFE,TEACUP WITHOUT HANDLE,SAKE BOTTLE AND CUP,WINE GLASS",
    "COCKTAIL GLASS,TROPICAL DRINK,BEER MUG,CLINKING BEER MUGS,BABY BOTTLE",
    "FORK AND KNIFE WITH PLATE,BOTTLE WITH POPPING CORK,POPCORN,RIBBON,WRAPPED PRESENT",
    "BIRTHDAY CAKE,JACK-O-LANTERN,CHRISTMAS TREE,FATHER CHRISTMAS,FIREWORKS,FIREWORK SPARKLER",
    "BALLOON,PARTY POPPER,CONFETTI BALL,TANABATA TREE,CROSSED FLAGS,PINE DECORATION",
    "JAPANESE DOLLS,CARP STREAMER,WIND CHIME,MOON VIEWING CEREMONY,SCHOOL SATCHEL",
    "GRADUATION CAP,HEART WITH TIP ON THE LEFT,BOUQUET OF FLOWERS,MILITARY MEDAL",
    "REMINDER RIBBON,MUSICAL KEYBOARD WITH JACKS,STUDIO MICROPHONE,LEVEL SLIDER,CONTROL KNOBS",
    "BEAMED ASCENDING MUSICAL NOTES,BEAMED DESCENDING MUSICAL NOTES,FILM FRAMES",
    "ADMISSION TICKETS,CAROUSEL HORSE,FERRIS WHEEL,ROLLER COASTER,FISHING POLE AND FISH",
    "MICROPHONE,MOVIE CAMERA,CINEMA,HEADPHONE,ARTIST PALETTE,TOP HAT,CIRCUS TENT,TICKET",
    "CLAPPER BOARD,PERFORMING ARTS,VIDEO GAME,DIRECT HIT,SLOT MACHINE,BILLIARDS,GAME DIE",
    "BOWLING,FLOWER PLAYING CARDS,MUSICAL NOTE,MULTIPLE MUSICAL NOTES,SAXOPHONE,GUITAR",
    "MUSICAL KEYBOARD,TRUMPET,VIOLIN,MUSICAL SCORE,RUNNING SHIRT WITH SASH",
    "TENNIS RACQUET AND BALL,SKI AND SKI BOOT,BASKETBALL AND HOOP,CHEQUERED FLAG,SNOWBOARDER",
    "RUNNER,SURFER,SPORTS MEDAL,TROPHY,HORSE RACING,AMERICAN FOOTBALL,RUGBY FOOTBALL,SWIMMER",
    "WEIGHT LIFTER,GOLFER,RACING MOTORCYCLE,RACING CAR,CRICKET BAT AND BALL,VOLLEYBALL",
    "FIELD HOCKEY STICK AND BALL,ICE HOCKEY STICK AND PUCK,TABLE TENNIS PADDLE AND BALL",
    "SNOW CAPPED MOUNTAIN,CAMPING,BEACH WITH UMBRELLA,BUILDING CONSTRUCTION,HOUSE BUILDINGS",
    "CITYSCAPE,DERELICT HOUSE BUILDING,CLASSICAL BUILDING,DESERT,DESERT ISLAND,NATIONAL PARK",
    "STADIUM,HOUSE BUILDING,HOUSE WITH GARDEN,OFFICE BUILDING,JAPANESE POST OFFICE",
    "EUROPEAN POST OFFICE,HOSPITAL,BANK,AUTOMATED TELLER MACHINE,HOTEL,LOVE HOTEL",
    "CONVENIENCE STORE,SCHOOL,DEPARTMENT STORE,FACTORY,IZAKAYA LANTERN,JAPANESE CASTLE",
    "EUROPEAN CASTLE,WHITE PENNANT,BLACK PENNANT,WAVING WHITE FLAG,WAVING BLACK FLAG,ROSETTE",
    "BLACK ROSETTE,LABEL,BADMINTON RACQUET AND SHUTTLECOCK,BOW AND ARROW,AMPHORA"]⟩,
  ⟨0x1F3FB, "EMOJI MODIFIER FITZPATRICK", ["TYPE-1-2,TYPE-3,TYPE-4,TYPE-5,TYPE-6"]⟩,
  ⟨0x1F400, "", [
    "RAT,MOUSE,OX,WATER BUFFALO,COW,TIGER,LEOPARD,RABBIT,CAT,DRAGON,CROCODILE,WHALE,SNAIL",
    "SNAKE,HORSE,RAM,GOAT,SHEEP,MONKEY,ROOSTER,CHICKEN,DOG,PIG,BOAR,ELEPHANT,OCTOPUS",
    "SPIRAL SHELL,BUG,ANT,HONEYBEE,LADY BEETLE,FISH,TROPICAL FISH,BLOWFISH,TURTLE",
    "HATCHING CHICK,BABY CHICK,FRONT-FACING BABY CHICK,BIRD,PENGUIN,KOALA,POODLE",
    "DROMEDARY CAMEL,BACTRIAN CAMEL,DOLPHIN,MOUSE FACE,COW FACE,TIGER FACE,RABBIT FACE",
    "CAT FACE,DRAGON FACE,SPOUTING WHALE,HORSE FACE,MONKEY FACE,DOG FACE,PIG FACE,FROG FACE",
    "HAMSTER FACE,WOLF FACE,BEAR FACE,PANDA FACE,PIG NOSE,PAW PRINTS,CHIPMUNK,EYES,EYE,EAR",
    "NOSE,MOUTH,TONGUE,WHITE UP POINTING BACKHAND INDEX,WHITE DOWN POINTING BACKHAND INDEX",
    "WHITE LEFT POINTING BACKHAND INDEX,WHITE RIGHT POINTING BACKHAND INDEX,FISTED HAND SIGN",
    "WAVING HAND SIGN,OK HAND SIGN,THUMBS UP SIGN,THUMBS DOWN SIGN,CLAPPING HANDS SIGN",
    "OPEN HANDS SIGN,CROWN,WOMANS HAT,EYEGLASSES,NECKTIE,T-SHIRT,JEANS,DRESS,KIMONO,BIKINI",
    "WOMANS CLOTHES,PURSE,HANDBAG,POUCH,MANS SHOE,ATHLETIC SHOE,HIGH-HEELED SHOE",
    "WOMANS SANDAL,WOMANS BOOTS,FOOTPRINTS,BUST IN SILHOUETTE,BUSTS IN SILHOUETTE,BOY,GIRL",
    "MAN,WOMAN,FAMILY,MAN AND WOMAN HOLDING HANDS,TWO MEN HOLDING HANDS",
    "TWO WOMEN HOLDING HANDS,POLICE OFFICER,WOMAN WITH BUNNY EARS,BRIDE WITH VEIL",
    "PERSON WITH BLOND HAIR,MAN WITH GUA PI MAO,MAN WITH TURBAN,OLDER MAN,OLDER WOMAN,BABY",
    "CONSTRUCTION WORKER,PRINCESS,JAPANESE OGRE,JAPANESE GOBLIN,GHOST,BABY ANGEL",
    "EXTRATERRESTRIAL ALIEN,ALIEN MONSTER,IMP,SKULL,INFORMATION DESK PERSON,GUARDSMAN,DANCER",
    "LIPSTICK,NAIL POLISH,FACE MASSAGE,HAIRCUT,BARBER POLE,SYRINGE,PILL,KISS MARK,LOVE LETTER",
    "RING,GEM STONE,KISS,BOUQUET,COUPLE WITH HEART,WEDDING,BEATING HEART,BROKEN HEART",
    "TWO HEARTS,SPARKLING HEART,GROWING HEART,HEART WITH ARROW,BLUE HEART,GREEN HEART",
    "YELLOW HEART,PURPLE HEART,HEART WITH RIBBON,REVOLVING HEARTS,HEART DECORATION",
    "DIAMOND SHAPE WITH A DOT INSIDE,ELECTRIC LIGHT BULB,ANGER SYMBOL,BOMB,SLEEPING SYMBOL",
    "COLLISION SYMBOL,SPLASHING SWEAT SYMBOL,DROPLET,DASH SYMBOL,PILE OF POO,FLEXED BICEPS",
    "DIZZY SYMBOL,SPEECH BALLOON,THOUGHT BALLOON,WHITE FLOWER,HUNDRED POINTS SYMBOL,MONEY BAG",
    "CURRENCY EXCHANGE,HEAVY DOLLAR SIGN,CREDIT CARD,BANKNOTE WITH YEN SIGN",
    "BANKNOTE WITH DOLLAR SIGN,BANKNOTE WITH EURO SIGN,BANKNOTE WITH POUND SIGN",
    "MONEY WITH WINGS,CHART WITH UPWARDS TREND AND YEN SIGN,SEAT,PERSONAL COMPUTER,BRIEFCASE",
    "MINIDISC,FLOPPY DISK,OPTICAL DISC,DVD,FILE FOLDER,OPEN FILE FOLDER,PAGE WITH CURL",
    "PAGE FACING UP,CALENDAR,TEAR-OFF CALENDAR,CARD INDEX,CHART WITH UPWARDS TREND",
    "CHART WITH DOWNWARDS TREND,BAR CHART,CLIPBOARD,PUSHPIN,ROUND PUSHPIN,PAPERCLIP",
    "STRAIGHT RULER,TRIANGULAR RULER,BOOKMARK TABS,LEDGER,NOTEBOOK",
    "NOTEBOOK WITH DECORATIVE COVER,CLOSED BOOK,OPEN BOOK,GREEN BOOK,BLUE BOOK,ORANGE BOOK",
    "BOOKS,NAME BADGE,SCROLL,MEMO,TELEPHONE RECEIVER,PAGER,FAX MACHINE,SATELLITE ANTENNA",
    "PUBLIC ADDRESS LOUDSPEAKER,CHEERING MEGAPHONE,OUTBOX TRAY,INBOX TRAY,PACKAGE",
    "E-MAIL SYMBOL,INCOMING ENVELOPE,ENVELOPE WITH DOWNWARDS ARROW ABOVE",
    "CLOSED MAILBOX WITH LOWERED FLAG,CLOSED MAILBOX WITH RAISED FLAG",
    "OPEN MAILBOX WITH RAISED FLAG,OPEN MAILBOX WITH LOWERED FLAG,POSTBOX,POSTAL HORN",
    "NEWSPAPER,MOBILE PHONE,MOBILE PHONE WITH RIGHTWARDS ARROW AT LEFT,VIBRATION MODE",
    "MOBILE PHONE OFF,NO MOBILE PHONES,ANTENNA WITH BARS,CAMERA,CAMERA WITH FLASH",
    "VIDEO CAMERA,TELEVISION,RADIO,VIDEOCASSETTE,FILM PROJECTOR,PORTABLE STEREO,PRAYER BEADS",
    "TWISTED RIGHTWARDS ARROWS,CLOCKWISE RIGHTWARDS AND LEFTWARDS OPEN CIRCLE ARROWS",
    "CLOCKWISE RIGHTWARDS AND LEFTWARDS OPEN CIRCLE ARROWS WITH CIRCLED ONE OVERLAY",
    "CLOCKWISE DOWNWARDS AND UPWARDS OPEN CIRCLE ARROWS",
    "ANTICLOCKWISE DOWNWARDS AND UPWARDS OPEN CIRCLE ARROWS,LOW BRIGHTNESS SYMBOL",
    "HIGH BRIGHTNESS SYMBOL,SPEAKER WITH CANCELLATION STROKE,SPEAKER",
    "SPEAKER WITH ONE SOUND WAVE,SPEAKER WITH THREE SOUND WAVES,BATTERY,ELECTRIC PLUG",
    "LEFT-POINTING MAGNIFYING GLASS,RIGHT-POINTING MAGNIFYING GLASS,LOCK WITH INK PEN",
    "CLOSED LOCK WITH KEY,KEY,LOCK,OPEN LOCK,BELL,BELL WITH CANCELLATION STROKE,BOOKMARK",
    "LINK SYMBOL,RADIO BUTTON,BACK WITH LEFTWARDS ARROW ABOVE,END WITH LEFTWARDS ARROW ABOVE",
    "ON WITH EXCLAMATION MARK WITH LEFT RIGHT ARROW ABOVE,SOON WITH RIGHTWARDS ARROW ABOVE",
    "TOP WITH UPWARDS ARROW ABOVE,NO ONE UNDER EIGHTEEN SYMBOL,KEYCAP TEN",
    "INPUT SYMBOL FOR LATIN CAPITAL LETTERS,INPUT SYMBOL FOR LATIN SMALL LETTERS",
    "INPUT SYMBOL FOR NUMBERS,INPUT SYMBOL FOR SYMBOLS,INPUT SYMBOL FOR LATIN LETTERS,FIRE",
    "ELECTRIC TORCH,WRENCH,HAMMER,NUT AND BOLT,HOCHO,PISTOL,MICROSCOPE,TELESCOPE,CRYSTAL BALL",
    "SIX POINTED STAR WITH MIDDLE DOT,JAPANESE SYMBOL FOR BEGINNER,TRIDENT EMBLEM",
    "BLACK SQUARE BUTTON,WHITE SQUARE BUTTON,LARGE RED CIRCLE,LARGE BLUE CIRCLE",
    "LARGE ORANGE DIAMOND,LARGE BLUE DIAMOND,SMALL ORANGE DIAMOND,SMALL BLUE DIAMOND",
    "UP-POINTING RED TRIANGLE,DOWN-POINTING RED TRIANGLE,UP-POINTING SMALL RED TRIANGLE",
    "DOWN-POINTING SMALL RED TRIANGLE,LOWER RIGHT SHADOWED WHITE CIRCLE",
    "UPPER RIGHT SHADOWED WHITE CIRCLE,CIRCLED CROSS POMMEE",
    "CROSS POMMEE WITH HALF-CIRCLE BELOW,CROSS POMMEE,NOTCHED LEFT SEMICIRCLE WITH THREE DOTS",
    "NOTCHED RIGHT SEMICIRCLE WITH THREE DOTS,SYMBOL FOR MARKS CHAPTER,WHITE LATIN CROSS",
    "HEAVY LATIN CROSS,CELTIC CROSS,OM SYMBOL,DOVE OF PEACE,KAABA,MOSQUE,SYNAGOGUE",
    "MENORAH WITH NINE BRANCHES,BOWL OF HYGIEIA"]⟩,
  ⟨0x1F550, "CLOCK FACE", [
    "ONE OCLOCK,TWO OCLOCK,THREE OCLOCK,FOUR OCLOCK,FIVE OCLOCK,SIX OCLOCK,SEVEN OCLOCK",
    "EIGHT OCLOCK,NINE OCLOCK,TEN OCLOCK,ELEVEN OCLOCK,TWELVE OCLOCK,ONE-THIRTY,TWO-THIRTY",
    "THREE-THIRTY,FOUR-THIRTY,FIVE-THIRTY,SIX-THIRTY,SEVEN-THIRTY,EIGHT-THIRTY,NINE-THIRTY",
    "TEN-THIRTY,ELEVEN-THIRTY,TWELVE-THIRTY"]⟩,
  ⟨0x1F568, "", [
    "RIGHT SPEAKER,RIGHT SPEAKER WITH ONE SOUND WAVE,RIGHT SPEAKER WITH THREE SOUND WAVES",
    "BULLHORN,BULLHORN WITH SOUND WAVES,RINGING BELL,BOOK,CANDLE,MANTELPIECE CLOCK",
    "BLACK SKULL AND CROSSBONES,NO PIRACY,HOLE,MAN IN BUSINESS SUIT LEVITATING,SLEUTH OR SPY",
    "DARK SUNGLASSES,SPIDER,SPIDER WEB,JOYSTICK,MAN DANCING,LEFT HAND TELEPHONE RECEIVER",
    "TELEPHONE RECEIVER WITH PAGE,RIGHT HAND TELEPHONE RECEIVER,WHITE TOUCHTONE TELEPHONE",
    "BLACK TOUCHTONE TELEPHONE,TELEPHONE ON TOP OF MODEM,CLAMSHELL MOBILE PHONE",
    "BACK OF ENVELOPE,STAMPED ENVELOPE,ENVELOPE WITH LIGHTNING,FLYING ENVELOPE",
    "PEN OVER STAMPED ENVELOPE,LINKED PAPERCLIPS,BLACK PUSHPIN,LOWER LEFT PENCIL",
    "LOWER LEFT BALLPOINT PEN,LOWER LEFT FOUNTAIN PEN,LOWER LEFT PAINTBRUSH,LOWER LEFT CRAYON",
    "LEFT WRITING HAND,TURNED OK HAND SIGN,RAISED HAND WITH FINGERS SPLAYED",
    "REVERSED RAISED HAND WITH FINGERS SPLAYED,REVERSED THUMBS UP SIGN",
    "REVERSED THUMBS DOWN SIGN,REVERSED VICTORY HAND",
    "REVERSED HAND WITH MIDDLE FINGER EXTENDED",
    "RAISED HAND WITH PART BETWEEN MIDDLE AND RING FINGERS",
    "WHITE DOWN POINTING LEFT HAND INDEX,SIDEWAYS WHITE LEFT POINTING INDEX",
    "SIDEWAYS WHITE RIGHT POINTING INDEX,SIDEWAYS BLACK LEFT POINTING INDEX",
    "SIDEWAYS BLACK RIGHT POINTING INDEX,BLACK LEFT POINTING BACKHAND INDEX",
    "BLACK RIGHT POINTING BACKHAND INDEX,SIDEWAYS WHITE UP POINTING INDEX",
    "SIDEWAYS WHITE DOWN POINTING INDEX,SIDEWAYS BLACK UP POINTING INDEX",
    "SIDEWAYS BLACK DOWN POINTING INDEX,BLACK UP POINTING BACKHAND INDEX",
    "BLACK DOWN POINTING BACKHAND INDEX,BLACK HEART,DESKTOP COMPUTER,KEYBOARD AND MOUSE",
    "THREE NETWORKED COMPUTERS,PRINTER,POCKET CALCULATOR,BLACK HARD SHELL FLOPPY DISK",
    "WHITE HARD SHELL FLOPPY DISK,SOFT SHELL FLOPPY DISK,TAPE CARTRIDGE,WIRED KEYBOARD",
    "ONE BUTTON MOUSE,TWO BUTTON MOUSE,THREE BUTTON MOUSE,TRACKBALL,OLD PERSONAL COMPUTER",
    "HARD DISK,SCREEN,PRINTER ICON,FAX ICON,OPTICAL DISC ICON,DOCUMENT WITH TEXT",
    "DOCUMENT WITH TEXT AND PICTURE,DOCUMENT WITH PICTURE,FRAME WITH PICTURE,FRAME WITH TILES",
    "FRAME WITH AN X,BLACK FOLDER,FOLDER,OPEN FOLDER,CARD INDEX DIVIDERS,CARD FILE BOX",
    "FILE CABINET,EMPTY NOTE,EMPTY NOTE PAGE,EMPTY NOTE PAD,NOTE,NOTE PAGE,NOTE PAD",
    "EMPTY DOCUMENT,EMPTY PAGE,EMPTY PAGES,DOCUMENT,PAGE,PAGES,WASTEBASKET,SPIRAL NOTE PAD",
    "SPIRAL CALENDAR PAD,DESKTOP WINDOW,MINIMIZE,MAXIMIZE,OVERLAP",
    "CLOCKWISE RIGHT AND LEFT SEMICIRCLE ARROWS,CANCELLATION X,INCREASE FONT SIZE SYMBOL",
    "DECREASE FONT SIZE SYMBOL,COMPRESSION,OLD KEY,ROLLED-UP NEWSPAPER,PAGE WITH CIRCLED TEXT",
    "STOCK CHART,DAGGER KNIFE,LIPS,SPEAKING HEAD IN SILHOUETTE,THREE RAYS ABOVE",
    "THREE RAYS BELOW,THREE RAYS LEFT,THREE RAYS RIGHT,LEFT SPEECH BUBBLE,RIGHT SPEECH BUBBLE",
    "TWO SPEECH BUBBLES,THREE SPEECH BUBBLES,LEFT THOUGHT BUBBLE,RIGHT THOUGHT BUBBLE",
    "LEFT ANGER BUBBLE,RIGHT ANGER BUBBLE,MOOD BUBBLE,LIGHTNING MOOD BUBBLE,LIGHTNING MOOD",
    "BALLOT BOX WITH BALLOT,BALLOT SCRIPT X,BALLOT BOX WITH SCRIPT X,BALLOT BOLD SCRIPT X",
    "BALLOT BOX WITH BOLD SCRIPT X,LIGHT CHECK MARK,BALLOT BOX WITH BOLD CHECK,WORLD MAP",
    "MOUNT FUJI,TOKYO TOWER,STATUE OF LIBERTY,SILHOUETTE OF JAPAN,MOYAI,GRINNING FACE",
    "GRINNING FACE WITH SMILING EYES,FACE WITH TEARS OF JOY"]⟩,
  ⟨0x1F603, "SMILING FACE WITH", [
    "OPEN MOUTH,OPEN MOUTH AND SMILING EYES,OPEN MOUTH AND COLD SWEAT",
    "OPEN MOUTH AND TIGHTLY-CLOSED EYES,HALO,HORNS"]⟩,
  ⟨0x1F609, "", [
    "WINKING FACE,SMILING FACE WITH SMILING EYES,FACE SAVOURING DELICIOUS FOOD,RELIEVED FACE",
    "SMILING FACE WITH HEART-SHAPED EYES,SMILING FACE WITH SUNGLASSES,SMIRKING FACE",
    "NEUTRAL FACE,EXPRESSIONLESS FACE,UNAMUSED FACE,FACE WITH COLD SWEAT,PENSIVE FACE",
    "CONFUSED FACE,CONFOUNDED FACE,KISSING FACE,FACE THROWING A KISS",
    "KISSING FACE WITH SMILING EYES,KISSING FACE WITH CLOSED EYES,FACE WITH STUCK-OUT TONGUE",
    "FACE WITH STUCK-OUT TONGUE AND WINKING EYE",
    "FACE WITH STUCK-OUT TONGUE AND TIGHTLY-CLOSED EYES,DISAPPOINTED FACE,WORRIED FACE",
    "ANGRY FACE,POUTING FACE,CRYING FACE,PERSEVERING FACE,FACE WITH LOOK OF TRIUMPH",
    "DISAPPOINTED BUT RELIEVED FACE,FROWNING FACE WITH OPEN MOUTH,ANGUISHED FACE,FEARFUL FACE",
    "WEARY FACE,SLEEPY FACE,TIRED FACE,GRIMACING FACE,LOUDLY CRYING FACE,FACE WITH OPEN MOUTH",
    "HUSHED FACE,FACE WITH OPEN MOUTH AND COLD SWEAT,FACE SCREAMING IN FEAR,ASTONISHED FACE",
    "FLUSHED FACE,SLEEPING FACE,DIZZY FACE,FACE WITHOUT MOUTH,FACE WITH MEDICAL MASK",
    "GRINNING CAT FACE WITH SMILING EYES,CAT FACE WITH TEARS OF JOY",
    "SMILING CAT FACE WITH OPEN MOUTH,SMILING CAT FACE WITH HEART-SHAPED EYES",
    "CAT FACE WITH WRY SMILE,KISSING CAT FACE WITH CLOSED EYES,POUTING CAT FACE",
    "CRYING CAT FACE,WEARY CAT FACE,SLIGHTLY FROWNING FACE,SLIGHTLY SMILING FACE",
    "UPSIDE-DOWN FACE,FACE WITH ROLLING EYES,FACE WITH NO GOOD GESTURE,FACE WITH OK GESTURE",
    "PERSON BOWING DEEPLY,SEE-NO-EVIL MONKEY,HEAR-NO-EVIL MONKEY,SPEAK-NO-EVIL MONKEY",
    "HAPPY PERSON RAISING ONE HAND,PERSON RAISING BOTH HANDS IN CELEBRATION,PERSON FROWNING",
    "PERSON WITH POUTING FACE,PERSON WITH FOLDED HANDS,NORTH WEST POINTING LEAF",
    "SOUTH WEST POINTING LEAF,NORTH EAST POINTING LEAF,SOUTH EAST POINTING LEAF",
    "TURNED NORTH WEST POINTING LEAF,TURNED SOUTH WEST POINTING LEAF",
    "TURNED NORTH EAST POINTING LEAF,TURNED SOUTH EAST POINTING LEAF",
    "NORTH WEST POINTING VINE LEAF,SOUTH WEST POINTING VINE LEAF",
    "NORTH EAST POINTING VINE LEAF,SOUTH EAST POINTING VINE LEAF",
    "HEAVY NORTH WEST POINTING VINE LEAF,HEAVY SOUTH WEST POINTING VINE LEAF",
    "HEAVY NORTH EAST POINTING VINE LEAF,HEAVY SOUTH EAST POINTING VINE LEAF",
    "NORTH WEST POINTING BUD,SOUTH WEST POINTING BUD,NORTH EAST POINTING BUD",
    "SOUTH EAST POINTING BUD,HEAVY NORTH WEST POINTING BUD,HEAVY SOUTH WEST POINTING BUD",
    "HEAVY NORTH EAST POINTING BUD,HEAVY SOUTH EAST POINTING BUD,HOLLOW QUILT SQUARE ORNAMENT",
    "HOLLOW QUILT SQUARE ORNAMENT IN BLACK SQUARE,SOLID QUILT SQUARE ORNAMENT",
    "SOLID QUILT SQUARE ORNAMENT IN BLACK SQUARE,LEFTWARDS ROCKET,UPWARDS ROCKET",
    "RIGHTWARDS ROCKET,DOWNWARDS ROCKET,SCRIPT LIGATURE ET ORNAMENT",
    "HEAVY SCRIPT LIGATURE ET ORNAMENT,LIGATURE OPEN ET ORNAMENT",
    "HEAVY LIGATURE OPEN ET ORNAMENT,HEAVY AMPERSAND ORNAMENT,SWASH AMPERSAND ORNAMENT",
    "SANS-SERIF HEAVY DOUBLE TURNED COMMA QUOTATION MARK ORNAMENT",
    "SANS-SERIF HEAVY DOUBLE COMMA QUOTATION MARK ORNAMENT",
    "SANS-SERIF HEAVY LOW DOUBLE COMMA QUOTATION MARK ORNAMENT,HEAVY INTERROBANG ORNAMENT",
    "SANS-SERIF INTERROBANG ORNAMENT,HEAVY SANS-SERIF INTERROBANG ORNAMENT,VERY HEAVY SOLIDUS",
    "VERY HEAVY REVERSE SOLIDUS,CHECKER BOARD,REVERSE CHECKER BOARD,ROCKET,HELICOPTER",
    "STEAM LOCOMOTIVE,RAILWAY CAR,HIGH-SPEED TRAIN,HIGH-SPEED TRAIN WITH BULLET NOSE,TRAIN",
    "METRO,LIGHT RAIL,STATION,TRAM,TRAM CAR,BUS,ONCOMING BUS,TROLLEYBUS,BUS STOP,MINIBUS",
    "AMBULANCE,FIRE ENGINE,POLICE CAR,ONCOMING POLICE CAR,TAXI,ONCOMING TAXI,AUTOMOBILE",
    "ONCOMING AUTOMOBILE,RECREATIONAL VEHICLE,DELIVERY TRUCK,ARTICULATED LORRY,TRACTOR",
    "MONORAIL,MOUNTAIN RAILWAY,SUSPENSION RAILWAY,MOUNTAIN CABLEWAY,AERIAL TRAMWAY,SHIP",
    "ROWBOAT,SPEEDBOAT,HORIZONTAL TRAFFIC LIGHT,VERTICAL TRAFFIC LIGHT,CONSTRUCTION SIGN",
    "POLICE CARS REVOLVING LIGHT,TRIANGULAR FLAG ON POST,DOOR,NO ENTRY SIGN,SMOKING SYMBOL",
    "NO SMOKING SYMBOL,PUT LITTER IN ITS PLACE SYMBOL,DO NOT LITTER SYMBOL",
    "POTABLE WATER SYMBOL,NON-POTABLE WATER SYMBOL,BICYCLE,NO BICYCLES,BICYCLIST",
    "MOUNTAIN BICYCLIST,PEDESTRIAN,NO PEDESTRIANS,CHILDREN CROSSING,MENS SYMBOL,WOMENS SYMBOL",
    "RESTROOM,BABY SYMBOL,TOILET,WATER CLOSET,SHOWER,BATH,BATHTUB,PASSPORT CONTROL,CUSTOMS",
    "BAGGAGE CLAIM,LEFT LUGGAGE,TRIANGLE WITH ROUNDED CORNERS,PROHIBITED SIGN",
    "CIRCLED INFORMATION SOURCE,BOYS SYMBOL,GIRLS SYMBOL,COUCH AND LAMP",
    "SLEEPING ACCOMMODATION,SHOPPING BAGS,BELLHOP BELL,BED,PLACE OF WORSHIP,OCTAGONAL SIGN",
    "SHOPPING TROLLEY,STUPA,PAGODA,HINDU TEMPLE,HUT,ELEVATOR,,,,,,PLAYGROUND SLIDE,WHEEL",
    "RING BUOY,HAMMER AND WRENCH,SHIELD,OIL DRUM,MOTORWAY,RAILWAY TRACK,MOTOR BOAT",
    "UP-POINTING MILITARY AIRPLANE,UP-POINTING AIRPLANE,UP-POINTING SMALL AIRPLANE",
    "SMALL AIRPLANE,NORTHEAST-POINTING AIRPLANE,AIRPLANE DEPARTURE,AIRPLANE ARRIVING,,,",
    "SATELLITE,ONCOMING FIRE ENGINE,DIESEL LOCOMOTIVE,PASSENGER SHIP,SCOOTER,MOTOR SCOOTER",
    "CANOE,SLED,FLYING SAUCER,SKATEBOARD,AUTO RICKSHAW,PICKUP TRUCK,ROLLER SKATE"]⟩,
  ⟨0x1F700, "ALCHEMICAL SYMBOL FOR", [
    "QUINTESSENCE,AIR,FIRE,EARTH,WATER,AQUAFORTIS,AQUA REGIA,AQUA REGIA-2,AQUA VITAE",
    "AQUA VITAE-2,VINEGAR,VINEGAR-2,VINEGAR-3,SULFUR,PHILOSOPHERS SULFUR,BLACK SULFUR",
    "MERCURY SUBLIMATE,MERCURY SUBLIMATE-2,MERCURY SUBLIMATE-3,CINNABAR,SALT,NITRE,VITRIOL",
    "VITRIOL-2,ROCK SALT,ROCK SALT-2,GOLD,SILVER,IRON ORE,IRON ORE-2,CROCUS OF IRON",
    "REGULUS OF IRON,COPPER ORE,IRON-COPPER ORE,SUBLIMATE OF COPPER,CROCUS OF COPPER",
    "CROCUS OF COPPER-2,COPPER ANTIMONIATE,SALT OF COPPER ANTIMONIATE",
    "SUBLIMATE OF SALT OF COPPER,VERDIGRIS,TIN ORE,LEAD ORE,ANTIMONY ORE",
    "SUBLIMATE OF ANTIMONY,SALT OF ANTIMONY,SUBLIMATE OF SALT OF ANTIMONY,VINEGAR OF ANTIMONY",
    "REGULUS OF ANTIMONY,REGULUS OF ANTIMONY-2,REGULUS,REGULUS-2,REGULUS-3,REGULUS-4,ALKALI",
    "ALKALI-2,MARCASITE,SAL-AMMONIAC,ARSENIC,REALGAR,REALGAR-2,AURIPIGMENT,BISMUTH ORE,TARTAR",
    "TARTAR-2,QUICK LIME,BORAX,BORAX-2,BORAX-3,ALUM,OIL,SPIRIT,TINCTURE,GUM,WAX,POWDER,CALX",
    "TUTTY,CAPUT MORTUUM,SCEPTER OF JOVE,CADUCEUS,TRIDENT,STARRED TRIDENT,LODESTONE,SOAP",
    "URINE,HORSE DUNG,ASHES,POT ASHES,BRICK,POWDERED BRICK,AMALGAM,STRATUM SUPER STRATUM",
    "STRATUM SUPER STRATUM-2,SUBLIMATION,PRECIPITATE,DISTILL,DISSOLVE,DISSOLVE-2,PURIFY",
    "PUTREFACTION,CRUCIBLE,CRUCIBLE-2,CRUCIBLE-3,CRUCIBLE-4,CRUCIBLE-5,ALEMBIC,BATH OF MARY",
    "BATH OF VAPOURS,RETORT,HOUR,NIGHT,DAY-NIGHT,MONTH,HALF DRAM,HALF OUNCE"]⟩,
  ⟨0x1F780, "", [
    "BLACK LEFT-POINTING ISOSCELES RIGHT TRIANGLE,BLACK UP-POINTING ISOSCELES RIGHT TRIANGLE",
    "BLACK RIGHT-POINTING ISOSCELES RIGHT TRIANGLE",
    "BLACK DOWN-POINTING ISOSCELES RIGHT TRIANGLE,BLACK SLIGHTLY SMALL CIRCLE",
    "MEDIUM BOLD WHITE CIRCLE,BOLD WHITE CIRCLE,HEAVY WHITE CIRCLE,VERY HEAVY WHITE CIRCLE",
    "EXTREMELY HEAVY WHITE CIRCLE,WHITE CIRCLE CONTAINING BLACK SMALL CIRCLE,ROUND TARGET",
    "BLACK TINY SQUARE,BLACK SLIGHTLY SMALL SQUARE,LIGHT WHITE SQUARE,MEDIUM WHITE SQUARE",
    "BOLD WHITE SQUARE,HEAVY WHITE SQUARE,VERY HEAVY WHITE SQUARE",
    "EXTREMELY HEAVY WHITE SQUARE,WHITE SQUARE CONTAINING BLACK VERY SMALL SQUARE",
    "WHITE SQUARE CONTAINING BLACK MEDIUM SQUARE,SQUARE TARGET,BLACK TINY DIAMOND",
    "BLACK VERY SMALL DIAMOND,BLACK MEDIUM SMALL DIAMOND",
    "WHITE DIAMOND CONTAINING BLACK VERY SMALL DIAMOND",
    "WHITE DIAMOND CONTAINING BLACK MEDIUM DIAMOND,DIAMOND TARGET,BLACK TINY LOZENGE",
    "BLACK VERY SMALL LOZENGE,BLACK MEDIUM SMALL LOZENGE",
    "WHITE LOZENGE CONTAINING BLACK SMALL LOZENGE,THIN GREEK CROSS,LIGHT GREEK CROSS",
    "MEDIUM GREEK CROSS,BOLD GREEK CROSS,VERY BOLD GREEK CROSS,VERY HEAVY GREEK CROSS",
    "EXTREMELY HEAVY GREEK CROSS,THIN SALTIRE,LIGHT SALTIRE,MEDIUM SALTIRE,BOLD SALTIRE",
    "HEAVY SALTIRE,VERY HEAVY SALTIRE,EXTREMELY HEAVY SALTIRE,LIGHT FIVE SPOKED ASTERISK",
    "MEDIUM FIVE SPOKED ASTERISK,BOLD FIVE SPOKED ASTERISK,HEAVY FIVE SPOKED ASTERISK",
    "VERY HEAVY FIVE SPOKED ASTERISK,EXTREMELY HEAVY FIVE SPOKED ASTERISK",
    "LIGHT SIX SPOKED ASTERISK,MEDIUM SIX SPOKED ASTERISK,BOLD SIX SPOKED ASTERISK",
    "HEAVY SIX SPOKED ASTERISK,VERY HEAVY SIX SPOKED ASTERISK",
    "EXTREMELY HEAVY SIX SPOKED ASTERISK,LIGHT EIGHT SPOKED ASTERISK",
    "MEDIUM EIGHT SPOKED ASTERISK,BOLD EIGHT SPOKED ASTERISK,HEAVY EIGHT SPOKED ASTERISK",
    "VERY HEAVY EIGHT SPOKED ASTERISK,LIGHT THREE POINTED BLACK STAR",
    "MEDIUM THREE POINTED BLACK STAR,THREE POINTED BLACK STAR",
    "MEDIUM THREE POINTED PINWHEEL STAR,LIGHT FOUR POINTED BLACK STAR",
    "MEDIUM FOUR POINTED BLACK STAR,FOUR POINTED BLACK STAR,MEDIUM FOUR POINTED PINWHEEL STAR",
    "REVERSE LIGHT FOUR POINTED PINWHEEL STAR,LIGHT FIVE POINTED BLACK STAR",
    "HEAVY FIVE POINTED BLACK STAR,MEDIUM SIX POINTED BLACK STAR,HEAVY SIX POINTED BLACK STAR",
    "SIX POINTED PINWHEEL STAR,MEDIUM EIGHT POINTED BLACK STAR,HEAVY EIGHT POINTED BLACK STAR",
    "VERY HEAVY EIGHT POINTED BLACK STAR,HEAVY EIGHT POINTED PINWHEEL STAR",
    "LIGHT TWELVE POINTED BLACK STAR,HEAVY TWELVE POINTED BLACK STAR",
    "HEAVY TWELVE POINTED PINWHEEL STAR,CIRCLED TRIANGLE,NEGATIVE CIRCLED TRIANGLE",
    "CIRCLED SQUARE,NEGATIVE CIRCLED SQUARE,,,,,,,,LARGE ORANGE CIRCLE,LARGE YELLOW CIRCLE",
    "LARGE GREEN CIRCLE,LARGE PURPLE CIRCLE,LARGE BROWN CIRCLE,LARGE RED SQUARE",
    "LARGE BLUE SQUARE,LARGE ORANGE SQUARE,LARGE YELLOW SQUARE,LARGE GREEN SQUARE",
    "LARGE PURPLE SQUARE,LARGE BROWN SQUARE,,,,,HEAVY EQUALS SIGN"]⟩,
  ⟨0x1F800, "", [
    "LEFTWARDS ARROW WITH SMALL TRIANGLE ARROWHEAD",
    "UPWARDS ARROW WITH SMALL TRIANGLE ARROWHEAD",
    "RIGHTWARDS ARROW WITH SMALL TRIANGLE ARROWHEAD",
    "DOWNWARDS ARROW WITH SMALL TRIANGLE ARROWHEAD",
    "LEFTWARDS ARROW WITH MEDIUM TRIANGLE ARROWHEAD",
    "UPWARDS ARROW WITH MEDIUM TRIANGLE ARROWHEAD",
    "RIGHTWARDS ARROW WITH MEDIUM TRIANGLE ARROWHEAD",
    "DOWNWARDS ARROW WITH MEDIUM TRIANGLE ARROWHEAD",
    "LEFTWARDS ARROW WITH LARGE TRIANGLE ARROWHEAD",
    "UPWARDS ARROW WITH LARGE TRIANGLE ARROWHEAD",
    "RIGHTWARDS ARROW WITH LARGE TRIANGLE ARROWHEAD",
    "DOWNWARDS ARROW WITH LARGE TRIANGLE ARROWHEAD,,,,",
    "LEFTWARDS ARROW WITH SMALL EQUILATERAL ARROWHEAD",
    "UPWARDS ARROW WITH SMALL EQUILATERAL ARROWHEAD",
    "RIGHTWARDS ARROW WITH SMALL EQUILATERAL ARROWHEAD",
    "DOWNWARDS ARROW WITH SMALL EQUILATERAL ARROWHEAD",
    "LEFTWARDS ARROW WITH EQUILATERAL ARROWHEAD,UPWARDS ARROW WITH EQUILATERAL ARROWHEAD",
    "RIGHTWARDS ARROW WITH EQUILATERAL ARROWHEAD,DOWNWARDS ARROW WITH EQUILATERAL ARROWHEAD",
    "HEAVY LEFTWARDS ARROW WITH EQUILATERAL ARROWHEAD",
    "HEAVY UPWARDS ARROW WITH EQUILATERAL ARROWHEAD",
    "HEAVY RIGHTWARDS ARROW WITH EQUILATERAL ARROWHEAD",
    "HEAVY DOWNWARDS ARROW WITH EQUILATERAL ARROWHEAD",
    "HEAVY LEFTWARDS ARROW WITH LARGE EQUILATERAL ARROWHEAD",
    "HEAVY UPWARDS ARROW WITH LARGE EQUILATERAL ARROWHEAD",
    "HEAVY RIGHTWARDS ARROW WITH LARGE EQUILATERAL ARROWHEAD",
    "HEAVY DOWNWARDS ARROW WITH LARGE EQUILATERAL ARROWHEAD",
    "LEFTWARDS TRIANGLE-HEADED ARROW WITH NARROW SHAFT",
    "UPWARDS TRIANGLE-HEADED ARROW WITH NARROW SHAFT",
    "RIGHTWARDS TRIANGLE-HEADED ARROW WITH NARROW SHAFT",
    "DOWNWARDS TRIANGLE-HEADED ARROW WITH NARROW SHAFT",
    "LEFTWARDS TRIANGLE-HEADED ARROW WITH MEDIUM SHAFT",
    "UPWARDS TRIANGLE-HEADED ARROW WITH MEDIUM SHAFT",
    "RIGHTWARDS TRIANGLE-HEADED ARROW WITH MEDIUM SHAFT",
    "DOWNWARDS TRIANGLE-HEADED ARROW WITH MEDIUM SHAFT",
    "LEFTWARDS TRIANGLE-HEADED ARROW WITH BOLD SHAFT",
    "UPWARDS TRIANGLE-HEADED ARROW WITH BOLD SHAFT",
    "RIGHTWARDS TRIANGLE-HEADED ARROW WITH BOLD SHAFT",
    "DOWNWARDS TRIANGLE-HEADED ARROW WITH BOLD SHAFT",
    "LEFTWARDS TRIANGLE-HEADED ARROW WITH HEAVY SHAFT",
    "UPWARDS TRIANGLE-HEADED ARROW WITH HEAVY SHAFT",
    "RIGHTWARDS TRIANGLE-HEADED ARROW WITH HEAVY SHAFT",
    "DOWNWARDS TRIANGLE-HEADED ARROW WITH HEAVY SHAFT",
    "LEFTWARDS TRIANGLE-HEADED ARROW WITH VERY HEAVY SHAFT",
    "UPWARDS TRIANGLE-HEADED ARROW WITH VERY HEAVY SHAFT",
    "RIGHTWARDS TRIANGLE-HEADED ARROW WITH VERY HEAVY SHAFT",
    "DOWNWARDS TRIANGLE-HEADED ARROW WITH VERY HEAVY SHAFT,LEFTWARDS FINGER-POST ARROW",
    "UPWARDS FINGER-POST ARROW,RIGHTWARDS FINGER-POST ARROW,DOWNWARDS FINGER-POST ARROW",
    "LEFTWARDS SQUARED ARROW,UPWARDS SQUARED ARROW,RIGHTWARDS SQUARED ARROW",
    "DOWNWARDS SQUARED ARROW,LEFTWARDS COMPRESSED ARROW,UPWARDS COMPRESSED ARROW",
    "RIGHTWARDS COMPRESSED ARROW,DOWNWARDS COMPRESSED ARROW,LEFTWARDS HEAVY COMPRESSED ARROW",
    "UPWARDS HEAVY COMPRESSED ARROW,RIGHTWARDS HEAVY COMPRESSED ARROW",
    "DOWNWARDS HEAVY COMPRESSED ARROW,LEFTWARDS HEAVY ARROW,UPWARDS HEAVY ARROW",
    "RIGHTWARDS HEAVY ARROW,DOWNWARDS HEAVY ARROW"]⟩,
  ⟨0x1F850, "", [
    "LEFTWARDS SANS-SERIF ARROW,UPWARDS SANS-SERIF ARROW,RIGHTWARDS SANS-SERIF ARROW",
    "DOWNWARDS SANS-SERIF ARROW,NORTH WEST SANS-SERIF ARROW,NORTH EAST SANS-SERIF ARROW",
    "SOUTH EAST SANS-SERIF ARROW,SOUTH WEST SANS-SERIF ARROW,LEFT RIGHT SANS-SERIF ARROW",
    "UP DOWN SANS-SERIF ARROW"]⟩,
  ⟨0x1F860, "WIDE-HEADED", [
    "LEFTWARDS LIGHT BARB ARROW,UPWARDS LIGHT BARB ARROW,RIGHTWARDS LIGHT BARB ARROW",
    "DOWNWARDS LIGHT BARB ARROW,NORTH WEST LIGHT BARB ARROW,NORTH EAST LIGHT BARB ARROW",
    "SOUTH EAST LIGHT BARB ARROW,SOUTH WEST LIGHT BARB ARROW,LEFTWARDS BARB ARROW",
    "UPWARDS BARB ARROW,RIGHTWARDS BARB ARROW,DOWNWARDS BARB ARROW,NORTH WEST BARB ARROW",
    "NORTH EAST BARB ARROW,SOUTH EAST BARB ARROW,SOUTH WEST BARB ARROW",
    "LEFTWARDS MEDIUM BARB ARROW,UPWARDS MEDIUM BARB ARROW,RIGHTWARDS MEDIUM BARB ARROW",
    "DOWNWARDS MEDIUM BARB ARROW,NORTH WEST MEDIUM BARB ARROW,NORTH EAST MEDIUM BARB ARROW",
    "SOUTH EAST MEDIUM BARB ARROW,SOUTH WEST MEDIUM BARB ARROW,LEFTWARDS HEAVY BARB ARROW",
    "UPWARDS HEAVY BARB ARROW,RIGHTWARDS HEAVY BARB ARROW,DOWNWARDS HEAVY BARB ARROW",
    "NORTH WEST HEAVY BARB ARROW,NORTH EAST HEAVY BARB ARROW,SOUTH EAST HEAVY BARB ARROW",
    "SOUTH WEST HEAVY BARB ARROW,LEFTWARDS VERY HEAVY BARB ARROW",
    "UPWARDS VERY HEAVY BARB ARROW,RIGHTWARDS VERY HEAVY BARB ARROW",
    "DOWNWARDS VERY HEAVY BARB ARROW,NORTH WEST VERY HEAVY BARB ARROW",
    "NORTH EAST VERY HEAVY BARB ARROW,SOUTH EAST VERY HEAVY BARB ARROW",
    "SOUTH WEST VERY HEAVY BARB ARROW"]⟩,
  ⟨0x1F890, "", [
    "LEFTWARDS TRIANGLE ARROWHEAD,UPWARDS TRIANGLE ARROWHEAD,RIGHTWARDS TRIANGLE ARROWHEAD",
    "DOWNWARDS TRIANGLE ARROWHEAD,LEFTWARDS WHITE ARROW WITHIN TRIANGLE ARROWHEAD",
    "UPWARDS WHITE ARROW WITHIN TRIANGLE ARROWHEAD",
    "RIGHTWARDS WHITE ARROW WITHIN TRIANGLE ARROWHEAD",
    "DOWNWARDS WHITE ARROW WITHIN TRIANGLE ARROWHEAD,LEFTWARDS ARROW WITH NOTCHED TAIL",
    "UPWARDS ARROW WITH NOTCHED TAIL,RIGHTWARDS ARROW WITH NOTCHED TAIL",
    "DOWNWARDS ARROW WITH NOTCHED TAIL,HEAVY ARROW SHAFT WIDTH ONE",
    "HEAVY ARROW SHAFT WIDTH TWO THIRDS,HEAVY ARROW SHAFT WIDTH ONE HALF",
    "HEAVY ARROW SHAFT WIDTH ONE THIRD,LEFTWARDS BOTTOM-SHADED WHITE ARROW",
    "RIGHTWARDS BOTTOM SHADED WHITE ARROW,LEFTWARDS TOP SHADED WHITE ARROW",
    "RIGHTWARDS TOP SHADED WHITE ARROW,LEFTWARDS LEFT-SHADED WHITE ARROW",
    "RIGHTWARDS RIGHT-SHADED WHITE ARROW,LEFTWARDS RIGHT-SHADED WHITE ARROW",
    "RIGHTWARDS LEFT-SHADED WHITE ARROW,LEFTWARDS BACK-TILTED SHADOWED WHITE ARROW",
    "RIGHTWARDS BACK-TILTED SHADOWED WHITE ARROW,LEFTWARDS FRONT-TILTED SHADOWED WHITE ARROW",
    "RIGHTWARDS FRONT-TILTED SHADOWED WHITE ARROW,WHITE ARROW SHAFT WIDTH ONE",
    "WHITE ARROW SHAFT WIDTH TWO THIRDS,,,ARROW POINTING UPWARDS THEN NORTH WEST",
    "ARROW POINTING RIGHTWARDS THEN CURVING SOUTH WEST"]⟩,
  ⟨0x1F900, "CIRCLED CROSS", ["FORMEE WITH FOUR DOTS,FORMEE WITH TWO DOTS,FORMEE"]⟩,
  ⟨0x1F903, "LEFT HALF CIRCLE WITH", ["FOUR DOTS,THREE DOTS,TWO DOTS,DOT"]⟩,
  ⟨0x1F907, "", [
    "LEFT HALF CIRCLE,DOWNWARD FACING HOOK,DOWNWARD FACING NOTCHED HOOK",
    "DOWNWARD FACING HOOK WITH DOT,DOWNWARD FACING NOTCHED HOOK WITH DOT,PINCHED FINGERS",
    "WHITE HEART,BROWN HEART,PINCHING HAND,ZIPPER-MOUTH FACE,MONEY-MOUTH FACE",
    "FACE WITH THERMOMETER,NERD FACE,THINKING FACE,FACE WITH HEAD-BANDAGE,ROBOT FACE",
    "HUGGING FACE,SIGN OF THE HORNS,CALL ME HAND,RAISED BACK OF HAND,LEFT-FACING FIST",
    "RIGHT-FACING FIST,HANDSHAKE,HAND WITH INDEX AND MIDDLE FINGERS CROSSED",
    "I LOVE YOU HAND SIGN,FACE WITH COWBOY HAT,CLOWN FACE,NAUSEATED FACE",
    "ROLLING ON THE FLOOR LAUGHING,DROOLING FACE,LYING FACE,FACE PALM,SNEEZING FACE",
    "FACE WITH ONE EYEBROW RAISED,GRINNING FACE WITH STAR EYES",
    "GRINNING FACE WITH ONE LARGE AND ONE SMALL EYE,FACE WITH FINGER COVERING CLOSED LIPS",
    "SERIOUS FACE WITH SYMBOLS COVERING MOUTH",
    "SMILING FACE WITH SMILING EYES AND HAND COVERING MOUTH,FACE WITH OPEN MOUTH VOMITING",
    "SHOCKED FACE WITH EXPLODING HEAD,PREGNANT WOMAN,BREAST-FEEDING,PALMS UP TOGETHER,SELFIE",
    "PRINCE,MAN IN TUXEDO,MOTHER CHRISTMAS,SHRUG,PERSON DOING CARTWHEEL,JUGGLING,FENCER",
    "MODERN PENTATHLON,WRESTLERS,WATER POLO,HANDBALL,DIVING MASK,WILTED FLOWER",
    "DRUM WITH DRUMSTICKS,CLINKING GLASSES,TUMBLER GLASS,SPOON,GOAL NET,RIFLE",
    "FIRST PLACE MEDAL,SECOND PLACE MEDAL,THIRD PLACE MEDAL,BOXING GLOVE,MARTIAL ARTS UNIFORM",
    "CURLING STONE,LACROSSE STICK AND BALL,SOFTBALL,FLYING DISC,CROISSANT,AVOCADO,CUCUMBER",
    "BACON,POTATO,CARROT,BAGUETTE BREAD,GREEN SALAD,SHALLOW PAN OF FOOD,STUFFED FLATBREAD,EGG",
    "GLASS OF MILK,PEANUTS,KIWIFRUIT,PANCAKES,DUMPLING,FORTUNE COOKIE,TAKEOUT BOX,CHOPSTICKS",
    "BOWL WITH SPOON,CUP WITH STRAW,COCONUT,BROCCOLI,PIE,PRETZEL,CUT OF MEAT,SANDWICH",
    "CANNED FOOD,LEAFY GREEN,MANGO,MOON CAKE,BAGEL",
    "SMILING FACE WITH SMILING EYES AND THREE HEARTS,YAWNING FACE,SMILING FACE WITH TEAR",
    "FACE WITH PARTY HORN AND PARTY HAT,FACE WITH UNEVEN EYES AND WAVY MOUTH,OVERHEATED FACE",
    "FREEZING FACE,NINJA,DISGUISED FACE,FACE HOLDING BACK TEARS,FACE WITH PLEADING EYES,SARI",
    "LAB COAT,GOGGLES,HIKING BOOT,FLAT SHOE,CRAB,LION FACE,SCORPION,TURKEY,UNICORN FACE,EAGLE",
    "DUCK,BAT,SHARK,OWL,FOX FACE,BUTTERFLY,DEER,GORILLA,LIZARD,RHINOCEROS,SHRIMP,SQUID",
    "GIRAFFE FACE,ZEBRA FACE,HEDGEHOG,SAUROPOD,T-REX,CRICKET,KANGAROO,LLAMA,PEACOCK",
    "HIPPOPOTAMUS,PARROT,RACCOON,LOBSTER,MOSQUITO,MICROBE,BADGER,SWAN,MAMMOTH,DODO,SLOTH",
    "OTTER,ORANGUTAN,SKUNK,FLAMINGO,OYSTER,BEAVER,BISON,SEAL,GUIDE DOG,PROBING CANE",
    "EMOJI COMPONENT RED HAIR,EMOJI COMPONENT CURLY HAIR,EMOJI COMPONENT BALD",
    "EMOJI COMPONENT WHITE HAIR,BONE,LEG,FOOT,TOOTH,SUPERHERO,SUPERVILLAIN,SAFETY VEST",
    "EAR WITH HEARING AID,MOTORIZED WHEELCHAIR,MANUAL WHEELCHAIR,MECHANICAL ARM",
    "MECHANICAL LEG,CHEESE WEDGE,CUPCAKE,SALT SHAKER,BEVERAGE BOX,GARLIC,ONION,FALAFEL,WAFFLE",
    "BUTTER,MATE DRINK,ICE CUBE,BUBBLE TEA,TROLL,STANDING PERSON,KNEELING PERSON,DEAF PERSON",
    "FACE WITH MONOCLE,ADULT,CHILD,OLDER ADULT,BEARDED PERSON,PERSON WITH HEADSCARF",
    "PERSON IN STEAMY ROOM,PERSON CLIMBING,PERSON IN LOTUS POSITION,MAGE,FAIRY,VAMPIRE",
    "MERPERSON,ELF,GENIE,ZOMBIE,BRAIN,ORANGE HEART,BILLED CAP,SCARF,GLOVES,COAT,SOCKS",
    "RED GIFT ENVELOPE,FIRECRACKER,JIGSAW PUZZLE PIECE,TEST TUBE,PETRI DISH,DNA DOUBLE HELIX",
    "COMPASS,ABACUS,FIRE EXTINGUISHER,TOOLBOX,BRICK,MAGNET,LUGGAGE,LOTION BOTTLE",
    "SPOOL OF THREAD,BALL OF YARN,SAFETY PIN,TEDDY BEAR,BROOM,BASKET,ROLL OF PAPER",
    "BAR OF SOAP,SPONGE,RECEIPT,NAZAR AMULET,NEUTRAL CHESS KING,NEUTRAL CHESS QUEEN",
    "NEUTRAL CHESS ROOK,NEUTRAL CHESS BISHOP,NEUTRAL CHESS KNIGHT,NEUTRAL CHESS PAWN",
    "WHITE CHESS KNIGHT ROTATED FORTY-FIVE DEGREES",
    "BLACK CHESS KNIGHT ROTATED FORTY-FIVE DEGREES",
    "NEUTRAL CHESS KNIGHT ROTATED FORTY-FIVE DEGREES"]⟩,
  ⟨0x1FA09, "WHITE CHESS", [
    "KING ROTATED NINETY DEGREES,QUEEN ROTATED NINETY DEGREES,ROOK ROTATED NINETY DEGREES",
    "BISHOP ROTATED NINETY DEGREES,KNIGHT ROTATED NINETY DEGREES,PAWN ROTATED NINETY DEGREES"]⟩,
  ⟨0x1FA0F, "BLACK CHESS", [
    "KING ROTATED NINETY DEGREES,QUEEN ROTATED NINETY DEGREES,ROOK ROTATED NINETY DEGREES",
    "BISHOP ROTATED NINETY DEGREES,KNIGHT ROTATED NINETY DEGREES,PAWN ROTATED NINETY DEGREES"]⟩,
  ⟨0x1FA15, "NEUTRAL CHESS", [
    "KING ROTATED NINETY DEGREES,QUEEN ROTATED NINETY DEGREES,ROOK ROTATED NINETY DEGREES",
    "BISHOP ROTATED NINETY DEGREES,KNIGHT ROTATED NINETY DEGREES,PAWN ROTATED NINETY DEGREES"]⟩,
  ⟨0x1FA1B, "", [
    "WHITE CHESS KNIGHT ROTATED ONE HUNDRED THIRTY-FIVE DEGREES",
    "BLACK CHESS KNIGHT ROTATED ONE HUNDRED THIRTY-FIVE DEGREES",
    "NEUTRAL CHESS KNIGHT ROTATED ONE HUNDRED THIRTY-FIVE DEGREES"]⟩,
  ⟨0x1FA1E, "WHITE CHESS TURNED", ["KING,QUEEN,ROOK,BISHOP,KNIGHT,PAWN"]⟩,
  ⟨0x1FA24, "BLACK CHESS TURNED", ["KING,QUEEN,ROOK,BISHOP,KNIGHT,PAWN"]⟩,
  ⟨0x1FA2A, "NEUTRAL CHESS TURNED", ["KING,QUEEN,ROOK,BISHOP,KNIGHT,PAWN"]⟩,
  ⟨0x1FA30, "", [
    "WHITE CHESS KNIGHT ROTATED TWO HUNDRED TWENTY-FIVE DEGREES",
    "BLACK CHESS KNIGHT ROTATED TWO HUNDRED TWENTY-FIVE DEGREES",
    "NEUTRAL CHESS KNIGHT ROTATED TWO HUNDRED TWENTY-FIVE DEGREES"]⟩,
  ⟨0x1FA33, "WHITE CHESS", [
    "KING ROTATED TWO HUNDRED SEVENTY DEGREES,QUEEN ROTATED TWO HUNDRED SEVENTY DEGREES",
    "ROOK ROTATED TWO HUNDRED SEVENTY DEGREES,BISHOP ROTATED TWO HUNDRED SEVENTY DEGREES",
    "KNIGHT ROTATED TWO HUNDRED SEVENTY DEGREES,PAWN ROTATED TWO HUNDRED SEVENTY DEGREES"]⟩,
  ⟨0x1FA39, "BLACK CHESS", [
    "KING ROTATED TWO HUNDRED SEVENTY DEGREES,QUEEN ROTATED TWO HUNDRED SEVENTY DEGREES",
    "ROOK ROTATED TWO HUNDRED SEVENTY DEGREES,BISHOP ROTATED TWO HUNDRED SEVENTY DEGREES",
    "KNIGHT ROTATED TWO HUNDRED SEVENTY DEGREES,PAWN ROTATED TWO HUNDRED SEVENTY DEGREES"]⟩,
  ⟨0x1FA3F, "NEUTRAL CHESS", [
    "KING ROTATED TWO HUNDRED SEVENTY DEGREES,QUEEN ROTATED TWO HUNDRED SEVENTY DEGREES",
    "ROOK ROTATED TWO HUNDRED SEVENTY DEGREES,BISHOP ROTATED TWO HUNDRED SEVENTY DEGREES",
    "KNIGHT ROTATED TWO HUNDRED SEVENTY DEGREES,PAWN ROTATED TWO HUNDRED SEVENTY DEGREES"]⟩,
  ⟨0x1FA45, "", [
    "WHITE CHESS KNIGHT ROTATED THREE HUNDRED FIFTEEN DEGREES",
    "BLACK CHESS KNIGHT ROTATED THREE HUNDRED FIFTEEN DEGREES",
    "NEUTRAL CHESS KNIGHT ROTATED THREE HUNDRED FIFTEEN DEGREES,WHITE CHESS EQUIHOPPER",
    "BLACK CHESS EQUIHOPPER,NEUTRAL CHESS EQUIHOPPER",
    "WHITE CHESS EQUIHOPPER ROTATED NINETY DEGREES",
    "BLACK CHESS EQUIHOPPER ROTATED NINETY DEGREES",
    "NEUTRAL CHESS EQUIHOPPER ROTATED NINETY DEGREES,WHITE CHESS KNIGHT-QUEEN",
    "WHITE CHESS KNIGHT-ROOK,WHITE CHESS KNIGHT-BISHOP,BLACK CHESS KNIGHT-QUEEN",
    "BLACK CHESS KNIGHT-ROOK,BLACK CHESS KNIGHT-BISHOP"]⟩,
  ⟨0x1FA60, "XIANGQI RED", ["GENERAL,MANDARIN,ELEPHANT,HORSE,CHARIOT,CANNON,SOLDIER"]⟩,
  ⟨0x1FA67, "XIANGQI BLACK", ["GENERAL,MANDARIN,ELEPHANT,HORSE,CHARIOT,CANNON,SOLDIER"]⟩,
  ⟨0x1FA70, "", [
    "BALLET SHOES,ONE-PIECE SWIMSUIT,BRIEFS,SHORTS,THONG SANDAL,,,,DROP OF BLOOD",
    "ADHESIVE BANDAGE,STETHOSCOPE,X-RAY,CRUTCH,,,,YO-YO,KITE,PARACHUTE,BOOMERANG,MAGIC WAND",
    "PINATA,NESTING DOLLS"]⟩,
  ⟨0x1FA90, "", [
    "RINGED PLANET,CHAIR,RAZOR,AXE,DIYA LAMP,BANJO,MILITARY HELMET,ACCORDION,LONG DRUM,COIN",
    "CARPENTRY SAW,SCREWDRIVER,LADDER,HOOK,,WINDOW,PLUNGER,SEWING NEEDLE,KNOT,BUCKET",
    "MOUSE TRAP,TOOTHBRUSH,HEADSTONE,PLACARD,ROCK,,IDENTIFICATION CARD,LOW BATTERY,HAMSA,,,",
    "FLY,WORM,BEETLE,COCKROACH,POTTED PLANT,WOOD,FEATHER,LOTUS,CORAL,EMPTY NEST",
    "NEST WITH EGGS,,,,,,ANATOMICAL HEART,LUNGS,PEOPLE HUGGING,PREGNANT MAN,PREGNANT PERSON",
    "PERSON WITH CROWN"]⟩,
  ⟨0x1FAD0, "", [
    "BLUEBERRIES,BELL PEPPER,OLIVE,FLATBREAD,TAMALE,FONDUE,TEAPOT,POURING LIQUID,BEANS,JAR,,,",
    ",,,MELTING FACE,SALUTING FACE,FACE WITH OPEN EYES AND HAND OVER MOUTH",
    "FACE WITH PEEKING EYE,FACE WITH DIAGONAL MOUTH,DOTTED LINE FACE,BITING LIP,BUBBLES"]⟩,
  ⟨0x1FAF0, "", [
    "HAND WITH INDEX FINGER AND THUMB CROSSED,RIGHTWARDS HAND,LEFTWARDS HAND,PALM DOWN HAND",
    "PALM UP HAND,INDEX POINTING AT THE VIEWER,HEART HANDS"]⟩,
  ⟨0x1FB00, "BLOCK", [
    "SEXTANT-1,SEXTANT-2,SEXTANT-12,SEXTANT-3,SEXTANT-13,SEXTANT-23,SEXTANT-123,SEXTANT-4",
    "SEXTANT-14,SEXTANT-24,SEXTANT-124,SEXTANT-34,SEXTANT-134,SEXTANT-234,SEXTANT-1234",
    "SEXTANT-5,SEXTANT-15,SEXTANT-25,SEXTANT-125,SEXTANT-35,SEXTANT-235,SEXTANT-1235",
    "SEXTANT-45,SEXTANT-145,SEXTANT-245,SEXTANT-1245,SEXTANT-345,SEXTANT-1345,SEXTANT-2345",
    "SEXTANT-12345,SEXTANT-6,SEXTANT-16,SEXTANT-26,SEXTANT-126,SEXTANT-36,SEXTANT-136",
    "SEXTANT-236,SEXTANT-1236,SEXTANT-46,SEXTANT-146,SEXTANT-1246,SEXTANT-346,SEXTANT-1346",
    "SEXTANT-2346,SEXTANT-12346,SEXTANT-56,SEXTANT-156,SEXTANT-256,SEXTANT-1256,SEXTANT-356",
    "SEXTANT-1356,SEXTANT-2356,SEXTANT-12356,SEXTANT-456,SEXTANT-1456,SEXTANT-2456",
    "SEXTANT-12456,SEXTANT-3456,SEXTANT-13456,SEXTANT-23456"]⟩,
  ⟨0x1FB3C, "LOWER LEFT BLOCK DIAGONAL", [
    "LOWER MIDDLE LEFT TO LOWER CENTRE,LOWER MIDDLE LEFT TO LOWER RIGHT",
    "UPPER MIDDLE LEFT TO LOWER CENTRE,UPPER MIDDLE LEFT TO LOWER RIGHT",
    "UPPER LEFT TO LOWER CENTRE"]⟩,
  ⟨0x1FB41, "LOWER RIGHT BLOCK DIAGONAL UPPER MIDDLE LEFT TO UPPER", ["CENTRE,RIGHT"]⟩,
  ⟨0x1FB43, "LOWER RIGHT BLOCK DIAGONAL LOWER", [
    "MIDDLE LEFT TO UPPER CENTRE,MIDDLE LEFT TO UPPER RIGHT,LEFT TO UPPER CENTRE",
    "MIDDLE LEFT TO UPPER MIDDLE RIGHT,CENTRE TO LOWER MIDDLE RIGHT",
    "LEFT TO LOWER MIDDLE RIGHT,CENTRE TO UPPER MIDDLE RIGHT,LEFT TO UPPER MIDDLE RIGHT",
    "CENTRE TO UPPER RIGHT"]⟩,
  ⟨0x1FB4C, "LOWER LEFT BLOCK DIAGONAL UPPER", [
    "CENTRE TO UPPER MIDDLE RIGHT,LEFT TO UPPER MIDDLE RIGHT,CENTRE TO LOWER MIDDLE RIGHT",
    "LEFT TO LOWER MIDDLE RIGHT,CENTRE TO LOWER RIGHT,MIDDLE LEFT TO LOWER MIDDLE RIGHT"]⟩,
  ⟨0x1FB52, "UPPER RIGHT BLOCK DIAGONAL", [
    "LOWER MIDDLE LEFT TO LOWER CENTRE,LOWER MIDDLE LEFT TO LOWER RIGHT",
    "UPPER MIDDLE LEFT TO LOWER CENTRE,UPPER MIDDLE LEFT TO LOWER RIGHT",
    "UPPER LEFT TO LOWER CENTRE"]⟩,
  ⟨0x1FB57, "UPPER LEFT BLOCK DIAGONAL UPPER MIDDLE LEFT TO UPPER", ["CENTRE,RIGHT"]⟩,
  ⟨0x1FB59, "UPPER LEFT BLOCK DIAGONAL LOWER", [
    "MIDDLE LEFT TO UPPER CENTRE,MIDDLE LEFT TO UPPER RIGHT,LEFT TO UPPER CENTRE",
    "MIDDLE LEFT TO UPPER MIDDLE RIGHT,CENTRE TO LOWER MIDDLE RIGHT",
    "LEFT TO LOWER MIDDLE RIGHT,CENTRE TO UPPER MIDDLE RIGHT,LEFT TO UPPER MIDDLE RIGHT",
    "CENTRE TO UPPER RIGHT"]⟩,
  ⟨0x1FB62, "UPPER RIGHT BLOCK DIAGONAL UPPER", [
    "CENTRE TO UPPER MIDDLE RIGHT,LEFT TO UPPER MIDDLE RIGHT,CENTRE TO LOWER MIDDLE RIGHT",
    "LEFT TO LOWER MIDDLE RIGHT,CENTRE TO LOWER RIGHT,MIDDLE LEFT TO LOWER MIDDLE RIGHT"]⟩,
  ⟨0x1FB68, "", [
    "UPPER AND RIGHT AND LOWER TRIANGULAR THREE QUARTERS BLOCK",
    "LEFT AND LOWER AND RIGHT TRIANGULAR THREE QUARTERS BLOCK",
    "UPPER AND LEFT AND LOWER TRIANGULAR THREE QUARTERS BLOCK",
    "LEFT AND UPPER AND RIGHT TRIANGULAR THREE QUARTERS BLOCK",
    "LEFT TRIANGULAR ONE QUARTER BLOCK,UPPER TRIANGULAR ONE QUARTER BLOCK",
    "RIGHT TRIANGULAR ONE QUARTER BLOCK,LOWER TRIANGULAR ONE QUARTER BLOCK"]⟩,
  ⟨0x1FB70, "VERTICAL ONE EIGHTH", ["BLOCK-2,BLOCK-3,BLOCK-4,BLOCK-5,BLOCK-6,BLOCK-7"]⟩,
  ⟨0x1FB76, "HORIZONTAL ONE EIGHTH", ["BLOCK-2,BLOCK-3,BLOCK-4,BLOCK-5,BLOCK-6,BLOCK-7"]⟩,
  ⟨0x1FB7C, "", [
    "LEFT AND LOWER ONE EIGHTH BLOCK,LEFT AND UPPER ONE EIGHTH BLOCK",
    "RIGHT AND UPPER ONE EIGHTH BLOCK,RIGHT AND LOWER ONE EIGHTH BLOCK",
    "UPPER AND LOWER ONE EIGHTH BLOCK,HORIZONTAL ONE EIGHTH BLOCK-1358",
    "UPPER ONE QUARTER BLOCK,UPPER THREE EIGHTHS BLOCK,UPPER FIVE EIGHTHS BLOCK",
    "UPPER THREE QUARTERS BLOCK,UPPER SEVEN EIGHTHS BLOCK,RIGHT ONE QUARTER BLOCK",
    "RIGHT THREE EIGHTHS BLOCK,RIGHT FIVE EIGHTHS BLOCK,RIGHT THREE QUARTERS BLOCK",
    "RIGHT SEVEN EIGHTHS BLOCK,LEFT HALF MEDIUM SHADE,RIGHT HALF MEDIUM SHADE",
    "UPPER HALF MEDIUM SHADE,LOWER HALF MEDIUM SHADE,INVERSE MEDIUM SHADE",
    "UPPER HALF BLOCK AND LOWER HALF INVERSE MEDIUM SHADE",
    "UPPER HALF INVERSE MEDIUM SHADE AND LOWER HALF BLOCK,",
    "LEFT HALF INVERSE MEDIUM SHADE AND RIGHT HALF BLOCK,CHECKER BOARD FILL",
    "INVERSE CHECKER BOARD FILL,HEAVY HORIZONTAL FILL,UPPER LEFT TO LOWER RIGHT FILL",
    "UPPER RIGHT TO LOWER LEFT FILL,UPPER AND LOWER TRIANGULAR HALF BLOCK",
    "LEFT AND RIGHT TRIANGULAR HALF BLOCK,UPPER LEFT TRIANGULAR MEDIUM SHADE",
    "UPPER RIGHT TRIANGULAR MEDIUM SHADE,LOWER RIGHT TRIANGULAR MEDIUM SHADE",
    "LOWER LEFT TRIANGULAR MEDIUM SHADE"]⟩,
  ⟨0x1FBA0, "BOX DRAWINGS LIGHT DIAGONAL", [
    "UPPER CENTRE TO MIDDLE LEFT,UPPER CENTRE TO MIDDLE RIGHT,MIDDLE LEFT TO LOWER CENTRE",
    "MIDDLE RIGHT TO LOWER CENTRE,UPPER CENTRE TO MIDDLE LEFT TO LOWER CENTRE",
    "UPPER CENTRE TO MIDDLE RIGHT TO LOWER CENTRE,MIDDLE LEFT TO LOWER CENTRE TO MIDDLE RIGHT",
    "MIDDLE LEFT TO UPPER CENTRE TO MIDDLE RIGHT",
    "UPPER CENTRE TO MIDDLE LEFT AND MIDDLE RIGHT TO LOWER CENTRE",
    "UPPER CENTRE TO MIDDLE RIGHT AND MIDDLE LEFT TO LOWER CENTRE",
    "UPPER CENTRE TO MIDDLE RIGHT TO LOWER CENTRE TO MIDDLE LEFT",
    "UPPER CENTRE TO MIDDLE LEFT TO LOWER CENTRE TO MIDDLE RIGHT",
    "MIDDLE LEFT TO UPPER CENTRE TO MIDDLE RIGHT TO LOWER CENTRE",
    "MIDDLE RIGHT TO UPPER CENTRE TO MIDDLE LEFT TO LOWER CENTRE,DIAMOND"]⟩,
  ⟨0x1FBAF, "", [
    "BOX DRAWINGS LIGHT HORIZONTAL WITH VERTICAL STROKE,ARROWHEAD-SHAPED POINTER",
    "INVERSE CHECK MARK,LEFT HALF RUNNING MAN,RIGHT HALF RUNNING MAN",
    "INVERSE DOWNWARDS ARROW WITH TIP LEFTWARDS",
    "LEFTWARDS ARROW AND UPPER AND LOWER ONE EIGHTH BLOCK",
    "RIGHTWARDS ARROW AND UPPER AND LOWER ONE EIGHTH BLOCK",
    "DOWNWARDS ARROW AND RIGHT ONE EIGHTH BLOCK,UPWARDS ARROW AND RIGHT ONE EIGHTH BLOCK",
    "LEFT HALF FOLDER,RIGHT HALF FOLDER,VOIDED GREEK CROSS,RIGHT OPEN SQUARED DOT",
    "NEGATIVE DIAGONAL CROSS,NEGATIVE DIAGONAL MIDDLE RIGHT TO LOWER CENTRE",
    "NEGATIVE DIAGONAL DIAMOND,WHITE HEAVY SALTIRE WITH ROUNDED CORNERS",
    "LEFT THIRD WHITE RIGHT POINTING INDEX,MIDDLE THIRD WHITE RIGHT POINTING INDEX",
    "RIGHT THIRD WHITE RIGHT POINTING INDEX,NEGATIVE SQUARED QUESTION MARK,STICK FIGURE",
    "STICK FIGURE WITH ARMS RAISED,STICK FIGURE LEANING LEFT,STICK FIGURE LEANING RIGHT",
    "STICK FIGURE WITH DRESS,WHITE UP-POINTING CHEVRON"]⟩,
  ⟨0x1FBF0, "SEGMENTED DIGIT", ["ZERO,ONE,TWO,THREE,FOUR,FIVE,SIX,SEVEN,EIGHT,NINE"]⟩,
  ⟨0xE0001, "LANGUAGE", ["TAG"]⟩,
  ⟨0xE0020, "TAG", [
    "SPACE,EXCLAMATION MARK,QUOTATION MARK,NUMBER SIGN,DOLLAR SIGN,PERCENT SIGN,AMPERSAND",
    "APOSTROPHE,LEFT PARENTHESIS,RIGHT PARENTHESIS,ASTERISK,PLUS SIGN,COMMA,HYPHEN-MINUS",
    "FULL STOP,SOLIDUS,DIGIT ZERO,DIGIT ONE,DIGIT TWO,DIGIT THREE,DIGIT FOUR,DIGIT FIVE",
    "DIGIT SIX,DIGIT SEVEN,DIGIT EIGHT,DIGIT NINE,COLON,SEMICOLON,LESS-THAN SIGN,EQUALS SIGN",
    "GREATER-THAN SIGN,QUESTION MARK,COMMERCIAL AT"]⟩,
  ⟨0xE0041, "TAG LATIN CAPITAL LETTER", ["A,B,C,D,E,F,G,H,I,J,K,L,M,N,O,P,Q,R,S,T,U,V,W,X,Y,Z"]⟩,
  ⟨0xE005B, "TAG", [
    "LEFT SQUARE BRACKET,REVERSE SOLIDUS,RIGHT SQUARE BRACKET,CIRCUMFLEX ACCENT,LOW LINE",
    "GRAVE ACCENT"]⟩,
  ⟨0xE0061, "TAG LATIN SMALL LETTER", ["A,B,C,D,E,F,G,H,I,J,K,L,M,N,O,P,Q,R,S,T,U,V,W,X,Y,Z"]⟩,
  ⟨0xE007B, "", [
    "TAG LEFT CURLY BRACKET,TAG VERTICAL LINE,TAG RIGHT CURLY BRACKET,TAG TILDE,CANCEL TAG"]⟩,
  ⟨0xE0100, "VARIATION", [
    "SELECTOR-17,SELECTOR-18,SELECTOR-19,SELECTOR-20,SELECTOR-21,SELECTOR-22,SELECTOR-23",
    "SELECTOR-24,SELECTOR-25,SELECTOR-26,SELECTOR-27,SELECTOR-28,SELECTOR-29,SELECTOR-30",
    "SELECTOR-31,SELECTOR-32,SELECTOR-33,SELECTOR-34,SELECTOR-35,SELECTOR-36,SELECTOR-37",
    "SELECTOR-38,SELECTOR-39,SELECTOR-40,SELECTOR-41,SELECTOR-42,SELECTOR-43,SELECTOR-44",
    "SELECTOR-45,SELECTOR-46,SELECTOR-47,SELECTOR-48,SELECTOR-49,SELECTOR-50,SELECTOR-51",
    "SELECTOR-52,SELECTOR-53,SELECTOR-54,SELECTOR-55,SELECTOR-56,SELECTOR-57,SELECTOR-58",
    "SELECTOR-59,SELECTOR-60,SELECTOR-61,SELECTOR-62,SELECTOR-63,SELECTOR-64,SELECTOR-65",
    "SELECTOR-66,SELECTOR-67,SELECTOR-68,SELECTOR-69,SELECTOR-70,SELECTOR-71,SELECTOR-72",
    "SELECTOR-73,SELECTOR-74,SELECTOR-75,SELECTOR-76,SELECTOR-77,SELECTOR-78,SELECTOR-79",
    "SELECTOR-80,SELECTOR-81,SELECTOR-82,SELECTOR-83,SELECTOR-84,SELECTOR-85,SELECTOR-86",
    "SELECTOR-87,SELECTOR-88,SELECTOR-89,SELECTOR-90,SELECTOR-91,SELECTOR-92,SELECTOR-93",
    "SELECTOR-94,SELECTOR-95,SELECTOR-96,SELECTOR-97,SELECTOR-98,SELECTOR-99,SELECTOR-100",
    "SELECTOR-101,SELECTOR-102,SELECTOR-103,SELECTOR-104,SELECTOR-105,SELECTOR-106",
    "SELECTOR-107,SELECTOR-108,SELECTOR-109,SELECTOR-110,SELECTOR-111,SELECTOR-112",
    "SELECTOR-113,SELECTOR-114,SELECTOR-115,SELECTOR-116,SELECTOR-117,SELECTOR-118",
    "SELECTOR-119,SELECTOR-120,SELECTOR-121,SELECTOR-122,SELECTOR-123,SELECTOR-124",
    "SELECTOR-125,SELECTOR-126,SELECTOR-127,SELECTOR-128,SELECTOR-129,SELECTOR-130",
    "SELECTOR-131,SELECTOR-132,SELECTOR-133,SELECTOR-134,SELECTOR-135,SELECTOR-136",
    "SELECTOR-137,SELECTOR-138,SELECTOR-139,SELECTOR-140,SELECTOR-141,SELECTOR-142",
    "SELECTOR-143,SELECTOR-144,SELECTOR-145,SELECTOR-146,SELECTOR-147,SELECTOR-148",
    "SELECTOR-149,SELECTOR-150,SELECTOR-151,SELECTOR-152,SELECTOR-153,SELECTOR-154",
    "SELECTOR-155,SELECTOR-156,SELECTOR-157,SELECTOR-158,SELECTOR-159,SELECTOR-160",
    "SELECTOR-161,SELECTOR-162,SELECTOR-163,SELECTOR-164,SELECTOR-165,SELECTOR-166",
    "SELECTOR-167,SELECTOR-168,SELECTOR-169,SELECTOR-170,SELECTOR-171,SELECTOR-172",
    "SELECTOR-173,SELECTOR-174,SELECTOR-175,SELECTOR-176,SELECTOR-177,SELECTOR-178",
    "SELECTOR-179,SELECTOR-180,SELECTOR-181,SELECTOR-182,SELECTOR-183,SELECTOR-184",
    "SELECTOR-185,SELECTOR-186,SELECTOR-187,SELECTOR-188,SELECTOR-189,SELECTOR-190",
    "SELECTOR-191,SELECTOR-192,SELECTOR-193,SELECTOR-194,SELECTOR-195,SELECTOR-196",
    "SELECTOR-197,SELECTOR-198,SELECTOR-199,SELECTOR-200,SELECTOR-201,SELECTOR-202",
    "SELECTOR-203,SELECTOR-204,SELECTOR-205,SELECTOR-206,SELECTOR-207,SELECTOR-208",
    "SELECTOR-209,SELECTOR-210,SELECTOR-211,SELECTOR-212,SELECTOR-213,SELECTOR-214",
    "SELECTOR-215,SELECTOR-216,SELECTOR-217,SELECTOR-218,SELECTOR-219,SELECTOR-220",
    "SELECTOR-221,SELECTOR-222,SELECTOR-223,SELECTOR-224,SELECTOR-225,SELECTOR-226",
    "SELECTOR-227,SELECTOR-228,SELECTOR-229,SELECTOR-230,SELECTOR-231,SELECTOR-232",
    "SELECTOR-233,SELECTOR-234,SELECTOR-235,SELECTOR-236,SELECTOR-237,SELECTOR-238",
    "SELECTOR-239,SELECTOR-240,SELECTOR-241,SELECTOR-242,SELECTOR-243,SELECTOR-244",
    "SELECTOR-245,SELECTOR-246,SELECTOR-247,SELECTOR-248,SELECTOR-249,SELECTOR-250",
    "SELECTOR-251,SELECTOR-252,SELECTOR-253,SELECTOR-254,SELECTOR-255,SELECTOR-256"]⟩]

end StoryCatalog
