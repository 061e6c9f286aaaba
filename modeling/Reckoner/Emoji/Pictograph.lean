/-!
# Pictographs

Pictographs show weather, plants, food, animals, things and events.
-/

namespace Reckoner.Emoji

/-- The pictographs, each with its names. -/
def pictographs : List (Char × List String) :=
  [('🌀', ["cyclone"]), ('🌁', ["foggy"]), ('🌂', ["closed_umbrella"]), ('🌃', ["night_with_stars"]),
   ('🌄', ["sunrise_over_mountains"]), ('🌅', ["sunrise"]),
   ('🌆', ["city_sunset", "cityscape_at_dusk"]), ('🌇', ["city_sunrise", "sunset"]),
   ('🌈', ["rainbow"]), ('🌉', ["bridge_at_night"]), ('🌊', ["ocean", "water_wave"]),
   ('🌋', ["volcano"]), ('🌌', ["milky_way"]), ('🌍', ["earth_africa", "globe_showing_europe-africa"]),
   ('🌎', ["earth_americas", "globe_showing_americas"]),
   ('🌏', ["earth_asia", "globe_showing_asia-australia"]), ('🌐', ["globe_with_meridians"]),
   ('🌑', ["new_moon"]), ('🌒', ["waxing_crescent_moon"]), ('🌓', ["first_quarter_moon"]),
   ('🌔', ["moon", "waxing_gibbous_moon"]), ('🌕', ["full_moon"]), ('🌖', ["waning_gibbous_moon"]),
   ('🌗', ["last_quarter_moon"]), ('🌘', ["waning_crescent_moon"]), ('🌙', ["crescent_moon"]),
   ('🌚', ["new_moon_face", "new_moon_with_face"]),
   ('🌛', ["first_quarter_moon_face", "first_quarter_moon_with_face"]),
   ('🌜', ["last_quarter_moon_face", "last_quarter_moon_with_face"]),
   ('🌝', ["full_moon_face", "full_moon_with_face"]), ('🌞', ["sun_with_face"]),
   ('🌟', ["glowing_star", "star2"]), ('🌠', ["shooting_star", "stars"]), ('🌡', ["thermometer"]),
   ('🌤', ["sun_behind_small_cloud", "white_sun_with_small_cloud"]),
   ('🌥', ["sun_behind_large_cloud", "white_sun_behind_cloud"]),
   ('🌦', ["sun_behind_rain_cloud", "white_sun_behind_cloud_with_rain"]), ('🌧', ["cloud_with_rain"]),
   ('🌨', ["cloud_with_snow"]), ('🌩', ["cloud_with_lightning"]),
   ('🌪', ["cloud_with_tornado", "tornado"]), ('🌫', ["fog"]),
   ('🌬', ["wind_blowing_face", "wind_face"]), ('🌭', ["hot_dog"]), ('🌮', ["taco"]),
   ('🌯', ["burrito"]), ('🌰', ["chestnut"]), ('🌱', ["seedling"]), ('🌲', ["evergreen_tree"]),
   ('🌳', ["deciduous_tree"]), ('🌴', ["palm_tree"]), ('🌵', ["cactus"]), ('🌶', ["hot_pepper"]),
   ('🌷', ["tulip"]), ('🌸', ["cherry_blossom"]), ('🌹', ["rose"]), ('🌺', ["hibiscus"]),
   ('🌻', ["sunflower"]), ('🌼', ["blossom"]), ('🌽', ["corn", "ear_of_corn"]),
   ('🌾', ["ear_of_rice", "sheaf_of_rice"]), ('🌿', ["herb"]), ('🍀', ["four_leaf_clover"]),
   ('🍁', ["maple_leaf"]), ('🍂', ["fallen_leaf"]), ('🍃', ["leaf_fluttering_in_wind", "leaves"]),
   ('🍄', ["mushroom"]), ('🍅', ["tomato"]), ('🍆', ["eggplant"]), ('🍇', ["grapes"]), ('🍈', ["melon"]),
   ('🍉', ["watermelon"]), ('🍊', ["tangerine"]), ('🍋', ["lemon"]), ('🍌', ["banana"]),
   ('🍍', ["pineapple"]), ('🍎', ["apple", "red_apple"]), ('🍏', ["green_apple"]), ('🍐', ["pear"]),
   ('🍑', ["peach"]), ('🍒', ["cherries"]), ('🍓', ["strawberry"]), ('🍔', ["hamburger"]),
   ('🍕', ["pizza"]), ('🍖', ["meat_on_bone"]), ('🍗', ["poultry_leg"]), ('🍘', ["rice_cracker"]),
   ('🍙', ["rice_ball"]), ('🍚', ["cooked_rice", "rice"]), ('🍛', ["curry", "curry_rice"]),
   ('🍜', ["ramen", "steaming_bowl"]), ('🍝', ["spaghetti"]), ('🍞', ["bread"]),
   ('🍟', ["french_fries", "fries"]), ('🍠', ["roasted_sweet_potato", "sweet_potato"]),
   ('🍡', ["dango"]), ('🍢', ["oden"]), ('🍣', ["sushi"]), ('🍤', ["fried_shrimp"]),
   ('🍥', ["fish_cake", "fish_cake_with_swirl"]), ('🍦', ["icecream", "soft_ice_cream"]),
   ('🍧', ["shaved_ice"]), ('🍨', ["ice_cream"]), ('🍩', ["doughnut"]), ('🍪', ["cookie"]),
   ('🍫', ["chocolate_bar"]), ('🍬', ["candy"]), ('🍭', ["lollipop"]), ('🍮', ["custard"]),
   ('🍯', ["honey_pot"]), ('🍰', ["cake", "shortcake"]), ('🍱', ["bento", "bento_box"]),
   ('🍲', ["pot_of_food", "stew"]), ('🍳', ["cooking", "egg"]), ('🍴', ["fork_and_knife"]),
   ('🍵', ["tea", "teacup_without_handle"]), ('🍶', ["sake"]), ('🍷', ["wine_glass"]),
   ('🍸', ["cocktail", "cocktail_glass"]), ('🍹', ["tropical_drink"]), ('🍺', ["beer", "beer_mug"]),
   ('🍻', ["beers", "clinking_beer_mugs"]), ('🍼', ["baby_bottle"]),
   ('🍽', ["fork_and_knife_with_plate"]), ('🍾', ["bottle_with_popping_cork"]), ('🍿', ["popcorn"]),
   ('🎀', ["ribbon"]), ('🎁', ["gift", "wrapped_gift"]), ('🎂', ["birthday", "birthday_cake"]),
   ('🎃', ["jack-o-lantern", "jack_o_lantern"]), ('🎄', ["christmas_tree"]), ('🎅', ["santa"]),
   ('🎆', ["fireworks"]), ('🎇', ["sparkler"]), ('🎈', ["balloon"]), ('🎉', ["party_popper", "tada"]),
   ('🎊', ["confetti_ball"]), ('🎋', ["tanabata_tree"]), ('🎌', ["crossed_flags"]),
   ('🎍', ["bamboo", "pine_decoration"]), ('🎎', ["dolls", "japanese_dolls"]),
   ('🎏', ["carp_streamer", "flags"]), ('🎐', ["wind_chime"]),
   ('🎑', ["moon_viewing_ceremony", "rice_scene"]), ('🎒', ["school_backpack", "school_satchel"]),
   ('🎓', ["graduation_cap", "mortar_board"]), ('🎖', ["military_medal"]), ('🎗', ["reminder_ribbon"]),
   ('🎙', ["studio_microphone"]), ('🎚', ["level_slider"]), ('🎛', ["control_knobs"]),
   ('🎞', ["film_frames"]), ('🎟', ["admission_tickets"]), ('🎠', ["carousel_horse"]),
   ('🎡', ["ferris_wheel"]), ('🎢', ["roller_coaster"]),
   ('🎣', ["fishing_pole", "fishing_pole_and_fish"]), ('🎤', ["microphone"]), ('🎥', ["movie_camera"]),
   ('🎦', ["cinema"]), ('🎧', ["headphone", "headphones"]), ('🎨', ["art", "artist_palette"]),
   ('🎩', ["top_hat", "tophat"]), ('🎪', ["circus_tent"]), ('🎫', ["ticket"]),
   ('🎬', ["clapper", "clapper_board"]), ('🎭', ["performing_arts"]), ('🎮', ["video_game"]),
   ('🎯', ["dart", "direct_hit"]), ('🎰', ["slot_machine"]), ('🎱', ["8ball", "pool_8_ball"]),
   ('🎲', ["game_die"]), ('🎳', ["bowling"]), ('🎴', ["flower_playing_cards"]),
   ('🎵', ["musical_note"]), ('🎶', ["musical_notes", "notes"]), ('🎷', ["saxophone"]),
   ('🎸', ["guitar"]), ('🎹', ["musical_keyboard"]), ('🎺', ["trumpet"]), ('🎻', ["violin"]),
   ('🎼', ["musical_score"]), ('🎽', ["running_shirt", "running_shirt_with_sash"]), ('🎾', ["tennis"]),
   ('🎿', ["ski", "skis"]), ('🏀', ["basketball"]), ('🏁', ["checkered_flag", "chequered_flag"]),
   ('🏃', ["runner", "running"]), ('🏄', ["surfer"]), ('🏅', ["sports_medal"]), ('🏆', ["trophy"]),
   ('🏈', ["american_football", "football"]), ('🏉', ["rugby_football"]), ('🏊', ["swimmer"]),
   ('🏋', ["weight_lifter"]), ('🏌', ["golfer"]), ('🏍', ["motorcycle", "racing_motorcycle"]),
   ('🏎', ["racing_car"]), ('🏏', ["cricket_bat_and_ball", "cricket_game"]), ('🏐', ["volleyball"]),
   ('🏑', ["field_hockey", "field_hockey_stick_and_ball"]),
   ('🏒', ["ice_hockey", "ice_hockey_stick_and_puck"]),
   ('🏓', ["ping_pong", "table_tennis_paddle_and_ball"]),
   ('🏔', ["snow-capped_mountain", "snow_capped_mountain"]), ('🏕', ["camping"]),
   ('🏖', ["beach_with_umbrella"]), ('🏗', ["building_construction"]),
   ('🏘', ["house_buildings", "houses"]), ('🏙', ["cityscape"]),
   ('🏚', ["derelict_house", "derelict_house_building"]), ('🏛', ["classical_building"]),
   ('🏜', ["desert"]), ('🏝', ["desert_island"]), ('🏞', ["national_park"]), ('🏟', ["stadium"]),
   ('🏠', ["house"]), ('🏡', ["house_with_garden"]), ('🏢', ["office", "office_building"]),
   ('🏣', ["japanese_post_office", "post_office"]), ('🏤', ["european_post_office"]),
   ('🏥', ["hospital"]), ('🏦', ["bank"]), ('🏧', ["atm", "atm_sign"]), ('🏨', ["hotel"]),
   ('🏩', ["love_hotel"]), ('🏪', ["convenience_store"]), ('🏫', ["school"]),
   ('🏬', ["department_store"]), ('🏭', ["factory"]),
   ('🏮', ["izakaya_lantern", "lantern", "red_paper_lantern"]), ('🏯', ["japanese_castle"]),
   ('🏰', ["castle", "european_castle"]), ('🏳', ["waving_white_flag", "white_flag"]),
   ('🏴', ["black_flag", "waving_black_flag"]), ('🏵', ["rosette"]), ('🏷', ["label"]),
   ('🏸', ["badminton", "badminton_racquet_and_shuttlecock"]), ('🏹', ["bow_and_arrow"]),
   ('🏺', ["amphora"]), ('🐀', ["rat"]), ('🐁', ["mouse2"]), ('🐂', ["ox"]), ('🐃', ["water_buffalo"]),
   ('🐄', ["cow2"]), ('🐅', ["tiger2"]), ('🐆', ["leopard"]), ('🐇', ["rabbit2"]), ('🐈', ["cat2"]),
   ('🐉', ["dragon"]), ('🐊', ["crocodile"]), ('🐋', ["whale2"]), ('🐌', ["snail"]), ('🐍', ["snake"]),
   ('🐎', ["racehorse"]), ('🐏', ["ram"]), ('🐐', ["goat"]), ('🐑', ["ewe", "sheep"]),
   ('🐒', ["monkey"]), ('🐓', ["rooster"]), ('🐔', ["chicken"]), ('🐕', ["dog2"]), ('🐖', ["pig2"]),
   ('🐗', ["boar"]), ('🐘', ["elephant"]), ('🐙', ["octopus"]), ('🐚', ["shell", "spiral_shell"]),
   ('🐛', ["bug"]), ('🐜', ["ant"]), ('🐝', ["bee", "honeybee"]), ('🐞', ["beetle", "lady_beetle"]),
   ('🐟', ["fish"]), ('🐠', ["tropical_fish"]), ('🐡', ["blowfish"]), ('🐢', ["turtle"]),
   ('🐣', ["hatching_chick"]), ('🐤', ["baby_chick"]),
   ('🐥', ["front-facing_baby_chick", "hatched_chick"]), ('🐦', ["bird"]), ('🐧', ["penguin"]),
   ('🐨', ["koala"]), ('🐩', ["poodle"]), ('🐪', ["dromedary_camel"]),
   ('🐫', ["camel", "two-hump_camel"]), ('🐬', ["dolphin", "flipper"]),
   ('🐭', ["mouse", "mouse_face"]), ('🐮', ["cow", "cow_face"]), ('🐯', ["tiger", "tiger_face"]),
   ('🐰', ["rabbit", "rabbit_face"]), ('🐱', ["cat", "cat_face"]), ('🐲', ["dragon_face"]),
   ('🐳', ["spouting_whale", "whale"]), ('🐴', ["horse", "horse_face"]), ('🐵', ["monkey_face"]),
   ('🐶', ["dog", "dog_face"]), ('🐷', ["pig", "pig_face"]), ('🐸', ["frog", "frog_face"]),
   ('🐹', ["hamster", "hamster_face"]), ('🐺', ["wolf", "wolf_face"]), ('🐻', ["bear", "bear_face"]),
   ('🐼', ["panda_face"]), ('🐽', ["pig_nose"]), ('🐾', ["feet", "paw_prints"]), ('🐿', ["chipmunk"]),
   ('👀', ["eyes"]), ('👁', ["eye"]), ('👄', ["lips", "mouth"]), ('👅', ["tongue"]),
   ('👆', ["point_up_2"]), ('👇', ["point_down"]), ('👈', ["point_left"]), ('👉', ["point_right"]),
   ('👊', ["facepunch", "punch"]), ('👋', ["wave"]), ('👍', ["+1", "thumbsup"]),
   ('👎', ["-1", "__1", "thumbsdown"]), ('👏', ["clap"]), ('👑', ["crown"]),
   ('👒', ["womans_hat", "woman’s_hat"]), ('👓', ["eyeglasses", "glasses"]), ('👔', ["necktie"]),
   ('👕', ["shirt", "t-shirt", "tshirt"]), ('👖', ["jeans"]), ('👗', ["dress"]), ('👘', ["kimono"]),
   ('👙', ["bikini"]), ('👚', ["womans_clothes", "woman’s_clothes"]), ('👛', ["purse"]),
   ('👜', ["handbag"]), ('👝', ["clutch_bag", "pouch"]), ('👞', ["mans_shoe", "man’s_shoe", "shoe"]),
   ('👟', ["athletic_shoe", "running_shoe"]), ('👠', ["high-heeled_shoe", "high_heel"]),
   ('👡', ["sandal", "woman’s_sandal"]), ('👢', ["boot", "woman’s_boot"]), ('👣', ["footprints"]),
   ('👤', ["bust_in_silhouette"]), ('👥', ["busts_in_silhouette"]), ('👪', ["family"]),
   ('👫', ["couple", "man_and_woman_holding_hands"]), ('👬', ["two_men_holding_hands"]),
   ('👭', ["two_women_holding_hands"]), ('👮', ["cop"]), ('👯', ["dancers", "people_with_bunny_ears"]),
   ('👱', ["person_with_blond_hair"]), ('👲', ["man_with_gua_pi_mao"]), ('👳', ["man_with_turban"]),
   ('👴', ["older_man"]), ('👵', ["older_woman"]), ('👹', ["japanese_ogre", "ogre"]),
   ('👺', ["goblin", "japanese_goblin"]), ('👻', ["ghost"]), ('👼', ["angel"]), ('👽', ["alien"]),
   ('👾', ["alien_monster", "space_invader"]), ('👿', ["angry_face_with_horns", "imp"]),
   ('💀', ["skull"]), ('💁', ["information_desk_person"]), ('💂', ["guardsman"]), ('💃', ["dancer"]),
   ('💄', ["lipstick"]), ('💅', ["nail_care"]), ('💆', ["massage"]), ('💇', ["haircut"]),
   ('💈', ["barber", "barber_pole"]), ('💉', ["syringe"]), ('💊', ["pill"]),
   ('💋', ["kiss", "kiss_mark"]), ('💌', ["love_letter"]), ('💍', ["ring"]),
   ('💎', ["gem", "gem_stone"]), ('💏', ["couplekiss"]), ('💐', ["bouquet"]),
   ('💑', ["couple_with_heart"]), ('💒', ["wedding"]), ('💓', ["beating_heart", "heartbeat"]),
   ('💔', ["broken_heart"]), ('💕', ["two_hearts"]), ('💖', ["sparkling_heart"]),
   ('💗', ["growing_heart", "heartpulse"]), ('💘', ["cupid", "heart_with_arrow"]),
   ('💙', ["blue_heart"]), ('💚', ["green_heart"]), ('💛', ["yellow_heart"]), ('💜', ["purple_heart"]),
   ('💝', ["gift_heart", "heart_with_ribbon"]), ('💞', ["revolving_hearts"]),
   ('💟', ["heart_decoration"]), ('💠', ["diamond_shape_with_a_dot_inside", "diamond_with_a_dot"]),
   ('💡', ["bulb", "light_bulb"]), ('💢', ["anger", "anger_symbol"]), ('💣', ["bomb"]), ('💤', ["zzz"]),
   ('💥', ["boom", "collision"]), ('💦', ["sweat_droplets", "sweat_drops"]), ('💧', ["droplet"]),
   ('💨', ["dash", "dashing_away"]), ('💩', ["hankey", "pile_of_poo", "poop", "shit"]),
   ('💪', ["muscle"]), ('💫', ["dizzy"]), ('💬', ["speech_balloon"]), ('💭', ["thought_balloon"]),
   ('💮', ["white_flower"]), ('💯', ["100", "hundred_points"]), ('💰', ["money_bag", "moneybag"]),
   ('💱', ["currency_exchange"]), ('💲', ["heavy_dollar_sign"]), ('💳', ["credit_card"]),
   ('💴', ["yen", "yen_banknote"]), ('💵', ["dollar", "dollar_banknote"]),
   ('💶', ["euro", "euro_banknote"]), ('💷', ["pound", "pound_banknote"]),
   ('💸', ["money_with_wings"]), ('💹', ["chart", "chart_increasing_with_yen"]), ('💺', ["seat"]),
   ('💻', ["computer", "laptop_computer"]), ('💼', ["briefcase"]),
   ('💽', ["computer_disk", "minidisc"]), ('💾', ["floppy_disk"]), ('💿', ["cd", "optical_disk"]),
   ('📀', ["dvd"]), ('📁', ["file_folder"]), ('📂', ["open_file_folder"]), ('📃', ["page_with_curl"]),
   ('📄', ["page_facing_up"]), ('📅', ["date"]), ('📆', ["calendar", "tear-off_calendar"]),
   ('📇', ["card_index"]), ('📈', ["chart_increasing", "chart_with_upwards_trend"]),
   ('📉', ["chart_decreasing", "chart_with_downwards_trend"]), ('📊', ["bar_chart"]),
   ('📋', ["clipboard"]), ('📌', ["pushpin"]), ('📍', ["round_pushpin"]), ('📎', ["paperclip"]),
   ('📏', ["straight_ruler"]), ('📐', ["triangular_ruler"]), ('📑', ["bookmark_tabs"]),
   ('📒', ["ledger"]), ('📓', ["notebook"]), ('📔', ["notebook_with_decorative_cover"]),
   ('📕', ["closed_book"]), ('📖', ["book", "open_book"]), ('📗', ["green_book"]),
   ('📘', ["blue_book"]), ('📙', ["orange_book"]), ('📚', ["books"]), ('📛', ["name_badge"]),
   ('📜', ["scroll"]), ('📝', ["memo", "pencil"]), ('📞', ["telephone_receiver"]), ('📟', ["pager"]),
   ('📠', ["fax", "fax_machine"]), ('📡', ["satellite", "satellite_antenna"]), ('📢', ["loudspeaker"]),
   ('📣', ["mega", "megaphone"]), ('📤', ["outbox_tray"]), ('📥', ["inbox_tray"]), ('📦', ["package"]),
   ('📧', ["e-mail", "e__mail"]), ('📨', ["incoming_envelope"]), ('📩', ["envelope_with_arrow"]),
   ('📪', ["closed_mailbox_with_lowered_flag", "mailbox_closed"]),
   ('📫', ["closed_mailbox_with_raised_flag", "mailbox"]),
   ('📬', ["mailbox_with_mail", "open_mailbox_with_raised_flag"]),
   ('📭', ["mailbox_with_no_mail", "open_mailbox_with_lowered_flag"]), ('📮', ["postbox"]),
   ('📯', ["postal_horn"]), ('📰', ["newspaper"]), ('📱', ["iphone", "mobile_phone"]),
   ('📲', ["calling", "mobile_phone_with_arrow"]), ('📳', ["vibration_mode"]),
   ('📴', ["mobile_phone_off"]), ('📵', ["no_mobile_phones"]),
   ('📶', ["antenna_bars", "signal_strength"]), ('📷', ["camera"]), ('📸', ["camera_with_flash"]),
   ('📹', ["video_camera"]), ('📺', ["television", "tv"]), ('📻', ["radio"]),
   ('📼', ["vhs", "videocassette"]), ('📽', ["film_projector"]), ('📿', ["prayer_beads"]),
   ('🔀', ["shuffle_tracks_button", "twisted_rightwards_arrows"]),
   ('🔁', ["repeat", "repeat_button"]), ('🔂', ["repeat_one", "repeat_single_button"]),
   ('🔃', ["arrows_clockwise", "clockwise_vertical_arrows"]),
   ('🔄', ["arrows_counterclockwise", "counterclockwise_arrows_button"]),
   ('🔅', ["dim_button", "low_brightness"]), ('🔆', ["bright_button", "high_brightness"]),
   ('🔇', ["mute", "muted_speaker"]), ('🔈', ["speaker", "speaker_low_volume"]),
   ('🔉', ["sound", "speaker_medium_volume"]), ('🔊', ["loud_sound", "speaker_high_volume"]),
   ('🔋', ["battery"]), ('🔌', ["electric_plug"]), ('🔍', ["mag", "magnifying_glass_tilted_left"]),
   ('🔎', ["mag_right", "magnifying_glass_tilted_right"]),
   ('🔏', ["lock_with_ink_pen", "locked_with_pen"]),
   ('🔐', ["closed_lock_with_key", "locked_with_key"]), ('🔑', ["key"]), ('🔒', ["lock", "locked"]),
   ('🔓', ["unlock", "unlocked"]), ('🔔', ["bell"]), ('🔕', ["bell_with_slash", "no_bell"]),
   ('🔖', ["bookmark"]), ('🔗', ["link"]), ('🔘', ["radio_button"]), ('🔙', ["back", "back_arrow"]),
   ('🔚', ["end", "end_arrow"]), ('🔛', ["on", "on!_arrow"]), ('🔜', ["soon", "soon_arrow"]),
   ('🔝', ["top", "top_arrow"]), ('🔞', ["no_one_under_eighteen", "underage"]),
   ('🔟', ["keycap_10", "ten"]), ('🔠', ["capital_abcd", "input_latin_uppercase"]),
   ('🔡', ["abcd", "input_latin_lowercase"]), ('🔢', ["1234", "input_numbers"]),
   ('🔣', ["input_symbols", "symbols"]), ('🔤', ["abc", "input_latin_letters"]), ('🔥', ["fire"]),
   ('🔦', ["flashlight"]), ('🔧', ["wrench"]), ('🔨', ["hammer"]), ('🔩', ["nut_and_bolt"]),
   ('🔪', ["hocho", "kitchen_knife", "knife"]), ('🔫', ["gun", "pistol"]), ('🔬', ["microscope"]),
   ('🔭', ["telescope"]), ('🔮', ["crystal_ball"]),
   ('🔯', ["dotted_six-pointed_star", "six_pointed_star"]),
   ('🔰', ["beginner", "japanese_symbol_for_beginner"]), ('🔱', ["trident", "trident_emblem"]),
   ('🔲', ["black_square_button"]), ('🔳', ["white_square_button"]), ('🔴', ["red_circle"]),
   ('🔵', ["blue_circle", "large_blue_circle"]), ('🔶', ["large_orange_diamond"]),
   ('🔷', ["large_blue_diamond"]), ('🔸', ["small_orange_diamond"]), ('🔹', ["small_blue_diamond"]),
   ('🔺', ["red_triangle_pointed_up", "small_red_triangle"]),
   ('🔻', ["red_triangle_pointed_down", "small_red_triangle_down"]),
   ('🔼', ["arrow_up_small", "upwards_button"]), ('🔽', ["arrow_down_small", "downwards_button"]),
   ('🕉', ["om", "om_symbol"]), ('🕊', ["dove", "dove_of_peace"]), ('🕋', ["kaaba"]),
   ('🕌', ["mosque"]), ('🕍', ["synagogue"]), ('🕎', ["menorah", "menorah_with_nine_branches"]),
   ('🕐', ["clock1", "one_o’clock"]), ('🕑', ["clock2", "two_o’clock"]),
   ('🕒', ["clock3", "three_o’clock"]), ('🕓', ["clock4", "four_o’clock"]),
   ('🕔', ["clock5", "five_o’clock"]), ('🕕', ["clock6", "six_o’clock"]),
   ('🕖', ["clock7", "seven_o’clock"]), ('🕗', ["clock8", "eight_o’clock"]),
   ('🕘', ["clock9", "nine_o’clock"]), ('🕙', ["clock10", "ten_o’clock"]),
   ('🕚', ["clock11", "eleven_o’clock"]), ('🕛', ["clock12", "twelve_o’clock"]),
   ('🕜', ["clock130", "one-thirty"]), ('🕝', ["clock230", "two-thirty"]),
   ('🕞', ["clock330", "three-thirty"]), ('🕟', ["clock430", "four-thirty"]),
   ('🕠', ["clock530", "five-thirty"]), ('🕡', ["clock630", "six-thirty"]),
   ('🕢', ["clock730", "seven-thirty"]), ('🕣', ["clock830", "eight-thirty"]),
   ('🕤', ["clock930", "nine-thirty"]), ('🕥', ["clock1030", "ten-thirty"]),
   ('🕦', ["clock1130", "eleven-thirty"]), ('🕧', ["clock1230", "twelve-thirty"]), ('🕯', ["candle"]),
   ('🕰', ["mantelpiece_clock"]), ('🕳', ["hole"]), ('🕴', ["man_in_business_suit_levitating"]),
   ('🕵', ["sleuth_or_spy"]), ('🕶', ["dark_sunglasses"]), ('🕷', ["spider"]), ('🕸', ["spider_web"]),
   ('🕹', ["joystick"]), ('🖇', ["linked_paperclips"]), ('🖊', ["lower_left_ballpoint_pen", "pen"]),
   ('🖋', ["fountain_pen", "lower_left_fountain_pen"]),
   ('🖌', ["lower_left_paintbrush", "paintbrush"]), ('🖍', ["crayon", "lower_left_crayon"]),
   ('🖐', ["raised_hand_with_fingers_splayed"]),
   ('🖕', ["reversed_hand_with_middle_finger_extended"]),
   ('🖖', ["raised_hand_with_part_between_middle_and_ring_fingers"]), ('🖤', ["black_heart"]),
   ('🖥', ["desktop_computer"]), ('🖨', ["printer"]), ('🖱', ["computer_mouse", "three_button_mouse"]),
   ('🖲', ["trackball"]), ('🖼', ["frame_with_picture", "framed_picture"]),
   ('🗂', ["card_index_dividers"]), ('🗃', ["card_file_box"]), ('🗄', ["file_cabinet"]),
   ('🗑', ["wastebasket"]), ('🗒', ["spiral_note_pad", "spiral_notepad"]),
   ('🗓', ["spiral_calendar", "spiral_calendar_pad"]), ('🗜', ["clamp", "compression"]),
   ('🗝', ["old_key"]), ('🗞', ["rolled-up_newspaper", "rolled__up_newspaper"]),
   ('🗡', ["dagger", "dagger_knife"]), ('🗣', ["speaking_head", "speaking_head_in_silhouette"]),
   ('🗨', ["left_speech_bubble"]), ('🗯', ["right_anger_bubble"]), ('🗳', ["ballot_box_with_ballot"]),
   ('🗺', ["world_map"]), ('🗻', ["mount_fuji"]), ('🗼', ["tokyo_tower"]),
   ('🗽', ["statue_of_liberty"]), ('🗾', ["japan", "map_of_japan"]), ('🗿', ["moai", "moyai"])]

end Reckoner.Emoji
